import CaseGrid.Log.Registry
import Mathlib.Data.List.TakeWhile

/-
  Names of loggers. A name under the program's is the program's, some points, and a rest that does
  not begin with a point; only the first of a row of points, read from the end, parts the name, and
  then every second one. So the names above one that has `k` points after the program's are names
  with as many points and a shorter rest, and the bare ones with `k - 1`, `k - 3` and so on points;
  the program's own name is among them just if `k` is odd.

  Proved: the names above are shorter beginnings of a name, longest first
  (`pairwise_ancestors`), and which they are (`ancestor_cases`, `pointed_mem_ancestors`).
-/

namespace CaseGrid.Log

/-! ## Names under the program's -/

/-- A name is the program's, or goes on after it and a point. -/
def IsOwn (name : String) : Prop :=
  name = program ∨ Text.begins (program ++ ".") name = true

theorem ownName_of_isOwn {name : String} (h : IsOwn name) : Registry.ownName name = name := by
  rw [Registry.ownName]
  split
  · rfl
  · rename_i hne
    rw [if_pos (h.resolve_left hne)]

theorem isOwn_ownName (name : String) : IsOwn (Registry.ownName name) := by
  rw [Registry.ownName]
  split
  · rename_i h
    exact .inl h
  · split
    · rename_i h
      exact .inr h
    · refine .inr (Text.begins_iff.mpr ?_)
      rw [String.toList_append (s := program ++ ".")]
      exact List.prefix_append _ _

/-- The name of the program with points after it. -/
def pointed (k : Nat) : String :=
  String.ofList (program.toList ++ List.replicate k '.')

/-- The number of points that stand right after the name of the program. -/
def pointsAfter (name : String) : Nat :=
  ((name.toList.drop program.length).takeWhile (· == '.')).length

/-- A name is that of the program with `k` points, and a rest that does not begin with one. -/
def GoesOn (name : String) (k : Nat) : Prop :=
  ∃ rest : List Char, name.toList = program.toList ++ List.replicate k '.' ++ rest ∧
    rest.head? ≠ some '.' ∧ (k = 0 → rest = [])

theorem pointed_zero : pointed 0 = program := by decide

theorem goesOn_pointed (k : Nat) : GoesOn (pointed k) k :=
  ⟨[], by rw [pointed, String.toList_ofList, List.append_nil], by simp, fun _ => rfl⟩

theorem GoesOn.eq_program {name : String} (h : GoesOn name 0) : name = program := by
  obtain ⟨rest, hname, -, hrest⟩ := h
  rw [hrest rfl] at hname
  exact String.toList_inj.mp (by simpa using hname)

theorem IsOwn.goesOn {name : String} (h : IsOwn name) : GoesOn name (pointsAfter name) := by
  rcases h with rfl | h
  · exact ⟨[], by decide, by simp, fun _ => rfl⟩
  · obtain ⟨rest, hrest⟩ := Text.begins_iff.mp h
    have hname : name.toList = program.toList ++ '.' :: rest := by
      rw [← hrest, String.toList_append, List.append_assoc]
      rfl
    have hdrop : name.toList.drop program.length = '.' :: rest := by
      rw [hname]
      exact List.drop_left
    have hrun : ('.' :: rest).takeWhile (· == '.') =
        List.replicate (pointsAfter name) '.' := by
      rw [pointsAfter, hdrop]
      exact List.eq_replicate_of_mem fun c hc => by simpa using List.mem_takeWhile_imp hc
    refine ⟨('.' :: rest).dropWhile (· == '.'), ?_, ?_, ?_⟩
    · rw [List.append_assoc, ← hrun, List.takeWhile_append_dropWhile, hname]
    · intro hhead
      have := List.head?_dropWhile_not (· == '.') ('.' :: rest)
      rw [hhead] at this
      simp at this
    · intro hzero
      rw [hzero] at hrun
      simp at hrun

theorem GoesOn.begins {name : String} {k : Nat} (h : GoesOn name k) :
    program.toList <+: name.toList := by
  obtain ⟨rest, hname, -⟩ := h
  rw [hname, List.append_assoc]
  exact List.prefix_append _ _

namespace Logger

/-! ## The names above a name -/

theorem beforePoint_of_not_mem {cs : List Char} (h : '.' ∉ cs) : beforePoint cs = [] := by
  induction cs with
  | nil => rfl
  | cons c cs ih =>
    rw [List.mem_cons, not_or] at h
    rw [beforePoint, ih h.2]
    exact fun hc => h.1 hc.symm

theorem beforePoint_append {u rest : List Char} (h : '.' ∉ u) :
    beforePoint (u ++ '.' :: rest) = rest := by
  induction u with
  | nil => rfl
  | cons c u ih =>
    rw [List.mem_cons, not_or] at h
    rw [List.cons_append, beforePoint, ih h.2]
    exact fun hc => h.1 hc.symm

/-- What stands before a point is a shorter end of what is read backwards. -/
theorem exists_of_beforePoint_ne_nil {cs : List Char} (h : beforePoint cs ≠ []) :
    ∃ u, '.' ∉ u ∧ cs = u ++ '.' :: beforePoint cs := by
  have hmem : '.' ∈ cs := by
    by_contra hnot
    exact h (beforePoint_of_not_mem hnot)
  obtain ⟨u, rest, rfl, hu⟩ := List.eq_append_cons_of_mem hmem
  exact ⟨u, hu, by rw [beforePoint_append hu]⟩

/-- The nearest of the names above, and those above it but for a point at its end. -/
theorem namesAbove_succ {fuel : Nat} {cs above : List Char} (h : beforePoint cs = above)
    (hne : above ≠ []) :
    namesAbove (fuel + 1) cs =
      String.ofList above.reverse :: namesAbove fuel (above.drop 1) := by
  rw [namesAbove, h]
  split
  · exact absurd rfl hne
  · rfl

theorem namesAbove_of_nil {fuel : Nat} {cs : List Char} (h : beforePoint cs = []) :
    namesAbove fuel cs = [] := by
  cases fuel with
  | zero => rfl
  | succ fuel => rw [namesAbove, h]

theorem mem_namesAbove {fuel : Nat} {cs : List Char} {n : String} (h : n ∈ namesAbove fuel cs) :
    n.toList.reverse <:+ cs ∧ n.toList.length < cs.length := by
  induction fuel generalizing cs with
  | zero => cases h
  | succ fuel ih =>
    by_cases hnil : beforePoint cs = []
    · rw [namesAbove_of_nil hnil] at h
      cases h
    · obtain ⟨u, -, hcs⟩ := exists_of_beforePoint_ne_nil hnil
      have hsuffix : beforePoint cs <:+ cs := ⟨u ++ ['.'], by rw [List.append_assoc]; exact hcs.symm⟩
      have hlength : (beforePoint cs).length < cs.length := by
        have := congrArg List.length hcs
        rw [List.length_append, List.length_cons] at this
        omega
      rw [namesAbove_succ rfl hnil, List.mem_cons] at h
      rcases h with rfl | h
      · rw [String.toList_ofList, List.reverse_reverse, List.length_reverse]
        exact ⟨hsuffix, hlength⟩
      · obtain ⟨hn, hnlength⟩ := ih h
        rw [List.length_drop] at hnlength
        exact ⟨hn.trans ((List.drop_suffix 1 _).trans hsuffix), by omega⟩

/-- The names above a name are shorter beginnings of it. -/
theorem mem_ancestors {name n : String} (h : n ∈ ancestors name) :
    n.toList <+: name.toList ∧ n.toList.length < name.toList.length := by
  obtain ⟨hn, hlength⟩ := mem_namesAbove h
  rw [List.length_reverse] at hlength
  exact ⟨List.reverse_suffix.mp hn, hlength⟩

theorem pairwise_namesAbove (fuel : Nat) (cs : List Char) :
    (namesAbove fuel cs).Pairwise fun a b => b.toList.length < a.toList.length := by
  induction fuel generalizing cs with
  | zero => exact .nil
  | succ fuel ih =>
    by_cases hnil : beforePoint cs = []
    · rw [namesAbove_of_nil hnil]
      exact .nil
    · rw [namesAbove_succ rfl hnil]
      refine List.pairwise_cons.mpr ⟨fun n hn => ?_, ih _⟩
      have hlength := (mem_namesAbove hn).2
      rw [List.length_drop] at hlength
      rw [String.toList_ofList, List.length_reverse]
      omega

/-- The nearest name above comes first. -/
theorem pairwise_ancestors (name : String) :
    (ancestors name).Pairwise fun a b => b.toList.length < a.toList.length :=
  pairwise_namesAbove _ _

/-! ## The names above one under the program's -/

section Own

variable {fuel k : Nat} {rest : List Char}

/-- A name under the program's, read backwards: a rest, points, and the name of the program. -/
def backwards (rest : List Char) (k : Nat) : List Char :=
  rest ++ (List.replicate k '.' ++ program.toList.reverse)

/-- A rest, read backwards, that may follow some points. -/
def Follows (rest : List Char) (k : Nat) : Prop :=
  rest.getLast? ≠ some '.' ∧ (k = 0 → rest = [])

theorem follows_nil (k : Nat) : Follows [] k := ⟨by simp, fun _ => rfl⟩

theorem Follows.tail {c : Char} (h : Follows (c :: rest) k) : Follows rest k := by
  refine ⟨fun hlast => h.1 ?_, fun hk => absurd (h.2 hk) (List.cons_ne_nil _ _)⟩
  rw [List.getLast?_cons, hlast]
  rfl

theorem toList_pointed (k : Nat) : (pointed k).toList.reverse = backwards [] k := by
  rw [pointed, String.toList_ofList, List.reverse_append, List.reverse_replicate]
  rfl

theorem pointed_of_backwards (k : Nat) :
    String.ofList (backwards [] k).reverse = pointed k := by
  rw [← toList_pointed, List.reverse_reverse, String.ofList_toList]

theorem goesOn_of_backwards (h : Follows rest k) :
    GoesOn (String.ofList (backwards rest k).reverse) k := by
  refine ⟨rest.reverse, ?_, by rw [List.head?_reverse]; exact h.1, fun hk => by rw [h.2 hk]; rfl⟩
  rw [String.toList_ofList, backwards, List.reverse_append, List.reverse_append,
    List.reverse_replicate, List.reverse_reverse]

theorem backwards_ne_nil (rest : List Char) (k : Nat) : backwards rest k ≠ [] := by
  rw [backwards, ne_eq, List.append_eq_nil_iff, List.append_eq_nil_iff]
  rintro ⟨-, -, h⟩
  exact absurd h (by decide)

/-- After the points nothing of the name is parted. -/
theorem namesAbove_program (fuel : Nat) : namesAbove fuel (backwards [] 0) = [] :=
  namesAbove_of_nil (beforePoint_of_not_mem (by decide))

/-- A row of points parts a name at its end, and then again two points before. -/
theorem namesAbove_bare (fuel k : Nat) :
    namesAbove fuel ((backwards [] (k + 1)).drop 1) = namesAbove fuel (backwards [] k) := rfl

/-- The first of the names above one under the program's: it has a shorter rest, or it is the bare
name with one point less. -/
theorem namesAbove_backwards (fuel : Nat) (h : Follows rest k) :
    (∃ u c rest', rest = u ++ '.' :: c :: rest' ∧ Follows (c :: rest') k ∧
      namesAbove (fuel + 1) (backwards rest k) =
        String.ofList (backwards (c :: rest') k).reverse :: namesAbove fuel (backwards rest' k)) ∨
    (∃ k', k = k' + 1 ∧ namesAbove (fuel + 1) (backwards rest k) =
      pointed k' :: namesAbove fuel ((backwards [] k').drop 1)) ∨
    (k = 0 ∧ rest = []) := by
  by_cases hmem : '.' ∈ rest
  · obtain ⟨u, rest', rfl, hu⟩ := List.eq_append_cons_of_mem hmem
    left
    have hlast : rest' ≠ [] := by
      rintro rfl
      exact h.1 (by simp)
    obtain ⟨c, rest', rfl⟩ := List.exists_cons_of_ne_nil hlast
    have hfollows : Follows (c :: rest') k := by
      refine ⟨fun heq => h.1 ?_, fun hk => ?_⟩
      · rw [List.getLast?_append, List.getLast?_cons_cons, heq]
        rfl
      · exact absurd (h.2 hk) (by simp)
    refine ⟨u, c, rest', rfl, hfollows, ?_⟩
    have hbefore : beforePoint (backwards (u ++ '.' :: c :: rest') k) =
        backwards (c :: rest') k := by
      rw [backwards, List.append_assoc, List.cons_append, beforePoint_append hu]
      rfl
    rw [namesAbove_succ hbefore (backwards_ne_nil _ _)]
    rfl
  · right
    cases k with
    | zero => exact .inr ⟨rfl, h.2 rfl⟩
    | succ k =>
      refine .inl ⟨k, rfl, ?_⟩
      have hbefore : beforePoint (backwards rest (k + 1)) = backwards [] k := by
        rw [backwards, List.replicate_succ, List.cons_append, beforePoint_append hmem]
        rfl
      rw [namesAbove_succ hbefore (backwards_ne_nil _ _), pointed_of_backwards]

theorem namesAbove_backwards_cases {n : String} (h : Follows rest k)
    (hn : n ∈ namesAbove fuel (backwards rest k)) :
    (rest ≠ [] ∧ GoesOn n k) ∨ ∃ j, j < k ∧ (k - j) % 2 = 1 ∧ n = pointed j := by
  induction fuel generalizing rest k with
  | zero => cases hn
  | succ fuel ih =>
    rcases namesAbove_backwards fuel h with
      ⟨u, c, rest', rfl, hfollows, heq⟩ | ⟨k, rfl, heq⟩ | ⟨rfl, rfl⟩
    · rw [heq, List.mem_cons] at hn
      rcases hn with rfl | hn
      · exact .inl ⟨by simp, goesOn_of_backwards hfollows⟩
      · exact (ih hfollows.tail hn).imp_left fun hrest => ⟨by simp, hrest.2⟩
    · rw [heq, List.mem_cons] at hn
      rcases hn with rfl | hn
      · exact .inr ⟨k, by omega, by omega, rfl⟩
      · cases k with
        | zero =>
          rw [namesAbove_of_nil (beforePoint_of_not_mem (by decide))] at hn
          cases hn
        | succ k =>
          rw [namesAbove_bare] at hn
          rcases ih (follows_nil k) hn with hrest | ⟨j, hj, hodd, rfl⟩
          · exact absurd rfl hrest.1
          · exact .inr ⟨j, by omega, by omega, rfl⟩
    · rw [namesAbove_program] at hn
      cases hn

theorem pointed_mem_namesAbove {j : Nat} (h : Follows rest k)
    (hfuel : (backwards rest k).length ≤ fuel) (hj : j < k) (hodd : (k - j) % 2 = 1) :
    pointed j ∈ namesAbove fuel (backwards rest k) := by
  induction fuel generalizing rest k with
  | zero =>
    exact absurd (List.length_eq_zero_iff.mp (Nat.le_zero.mp hfuel)) (backwards_ne_nil _ _)
  | succ fuel ih =>
    rcases namesAbove_backwards fuel h with
      ⟨u, c, rest', rfl, hfollows, heq⟩ | ⟨k, rfl, heq⟩ | ⟨rfl, rfl⟩
    · rw [heq]
      refine List.mem_cons_of_mem _ (ih hfollows.tail ?_ hj hodd)
      simp only [backwards, List.length_append, List.length_cons] at hfuel ⊢
      omega
    · rw [heq, List.mem_cons]
      by_cases hjk : j = k
      · exact .inl (by rw [hjk])
      · obtain ⟨k, rfl⟩ : ∃ m, k = m + 1 := ⟨k - 1, by omega⟩
        rw [namesAbove_bare]
        refine .inr (ih (follows_nil k) ?_ (by omega) (by omega))
        simp only [backwards, List.length_append, List.length_replicate, List.length_nil]
          at hfuel ⊢
        omega
    · omega

theorem exists_backwards {name : String} (h : GoesOn name k) :
    ∃ rest, Follows rest k ∧ name.toList.reverse = backwards rest k := by
  obtain ⟨rest, hname, hhead, hbare⟩ := h
  refine ⟨rest.reverse, ⟨by rw [List.getLast?_reverse]; exact hhead, fun hk => ?_⟩, ?_⟩
  · rw [hbare hk]
    rfl
  · rw [hname, List.reverse_append, List.reverse_append, List.reverse_replicate]
    rfl

/-- A name above goes on as the name does, or is a bare one with an odd number of points less. -/
theorem ancestor_cases {name n : String} (h : GoesOn name k) (hn : n ∈ ancestors name) :
    GoesOn n k ∨ ∃ j, j < k ∧ (k - j) % 2 = 1 ∧ n = pointed j := by
  obtain ⟨rest, hrest, hname⟩ := exists_backwards h
  rw [ancestors, hname] at hn
  exact (namesAbove_backwards_cases hrest hn).imp_left And.right

theorem pointed_mem_ancestors {name : String} {j : Nat} (h : GoesOn name k) (hj : j < k)
    (hodd : (k - j) % 2 = 1) : pointed j ∈ ancestors name := by
  obtain ⟨rest, hrest, hname⟩ := exists_backwards h
  rw [ancestors, hname]
  refine pointed_mem_namesAbove hrest ?_ hj hodd
  rw [← hname, List.length_reverse, String.length_toList]

end Own

end Logger

end CaseGrid.Log
