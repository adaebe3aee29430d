import CaseGrid.Proofs.Text.Pieces

/-
  Where the separators of glued pieces stand, and what is between them.

  Each piece begins where the separator before it ends, so that the offsets of the separators are
  prefix sums over the lengths of the pieces (`ends`). The separator stands at each of these offsets
  (`prefix_drop_of_mem_ends`), and cut there the pieces come back whatever they hold
  (`slices_ends`). A separator `a b a` stands nowhere else if no piece holds its middle item
  (`positions_glue`): the items around it keep the middle items of two separators apart.
-/

namespace CaseGrid.Text

variable {α : Type}

/-! ## Positions -/

section Positions

/-- A sequence does not begin with `b` if neither its first part holds it nor the rest begins so. -/
theorem head?_append_ne {b : α} {p cs : List α} (hp : b ∉ p) (hcs : cs.head? ≠ some b) :
    (p ++ cs).head? ≠ some b := by
  cases p with
  | nil => exact hcs
  | cons c p => exact fun h => hp (by simp [Option.some.inj h])

/-- A pattern with `b` in the middle does not begin before another item than `b`. -/
theorem not_prefix_of_head?_ne {a b c : α} {cs : List α} (h : cs.head? ≠ some b) :
    ¬ [a, b, a] <+: c :: cs := by
  rintro ⟨rest, hrest⟩
  obtain rfl := (List.cons.inj hrest).2
  exact h rfl

variable [BEq α]

/-- The positions at which a pattern stands in a sequence. -/
def positions (pattern cs : List α) : List Nat :=
  (List.range cs.length).filter fun k => pattern.isPrefixOf (cs.drop k)

/-- The offsets at which a pattern stands in a text. -/
def offsets (pattern text : String) : List Nat :=
  positions pattern.toList text.toList

theorem mem_positions_iff [LawfulBEq α] {pattern cs : List α} (hp : pattern ≠ []) {k : Nat} :
    k ∈ positions pattern cs ↔ pattern <+: cs.drop k := by
  rw [positions, List.mem_filter, List.isPrefixOf_iff_prefix, List.mem_range]
  refine ⟨And.right, fun h => ⟨?_, h⟩⟩
  have hpos : 0 < pattern.length := List.length_pos_iff.mpr hp
  have hle : pattern.length ≤ cs.length - k := by simpa using h.length_le
  omega

theorem positions_cons (pattern cs : List α) (c : α) :
    positions pattern (c :: cs) =
      (if pattern.isPrefixOf (c :: cs) then [0] else []) ++ (positions pattern cs).map (1 + ·) := by
  have hlater : ((List.range cs.length).map Nat.succ).filter
      (fun k => pattern.isPrefixOf ((c :: cs).drop k)) = (positions pattern cs).map (1 + ·) := by
    rw [List.filter_map, positions]
    exact List.map_congr_left fun k _ => Nat.succ_eq_one_add k
  rw [positions, List.length_cons, List.range_succ_eq_map, List.filter_cons, hlater,
    List.drop_zero]
  split <;> rfl

variable [LawfulBEq α] {a b : α}

/-- Before items without `b` the positions move on. -/
theorem positions_append {p cs : List α} (hp : b ∉ p) (hcs : cs.head? ≠ some b) :
    positions [a, b, a] (p ++ cs) = (positions [a, b, a] cs).map (p.length + ·) := by
  induction p with
  | nil => simp
  | cons c p ih =>
    obtain ⟨-, hp⟩ := List.ne_and_not_mem_of_not_mem_cons hp
    have hopen : ¬ [a, b, a].isPrefixOf (c :: (p ++ cs)) = true := fun h =>
      not_prefix_of_head?_ne (head?_append_ne hp hcs) (List.isPrefixOf_iff_prefix.mp h)
    rw [List.cons_append, positions_cons, if_neg hopen, ih hp, List.nil_append, List.map_map]
    refine List.map_congr_left fun k _ => ?_
    show 1 + (p.length + k) = p.length + 1 + k
    omega

/-- The separator stands at the beginning, and next after its end. -/
theorem positions_separator (hab : a ≠ b) {cs : List α} (hcs : cs.head? ≠ some b) :
    positions [a, b, a] (a :: b :: a :: cs) = 0 :: (positions [a, b, a] cs).map (3 + ·) := by
  have hfirst : [a, b, a].isPrefixOf (a :: b :: a :: cs) = true :=
    List.isPrefixOf_iff_prefix.mpr ⟨cs, rfl⟩
  have hmiddle : ¬ [a, b, a].isPrefixOf (b :: a :: cs) = true :=
    fun h => hab (List.cons_prefix_cons.mp (List.isPrefixOf_iff_prefix.mp h)).1
  have hlast : positions [a, b, a] (a :: cs) = (positions [a, b, a] cs).map (1 + ·) :=
    positions_append (p := [a]) (by simpa using hab.symm) hcs
  rw [positions_cons, if_pos hfirst, positions_cons, if_neg hmiddle, hlast]
  simp only [List.nil_append, List.singleton_append, List.map_map]
  congr 1
  refine List.map_congr_left fun k _ => ?_
  show 1 + (1 + (1 + k)) = 3 + k
  omega

end Positions

/-! ## Prefix sums -/

/-- Where pieces of some lengths end, the last one apart, if the first begins at `start` and a
separator of a given width follows each. -/
def ends (width start : Nat) : List Nat → List Nat
  | n :: m :: ns => (start + n) :: ends width (start + n + width) (m :: ns)
  | _ => []

theorem ends_add (width start k : Nat) (ns : List Nat) :
    ends width (k + start) ns = (ends width start ns).map (k + ·) := by
  induction ns generalizing start with
  | nil => rfl
  | cons n ns ih =>
    cases ns with
    | nil => rfl
    | cons m ns =>
      rw [ends, ends, List.map_cons, ← ih]
      simp only [Nat.add_assoc]

/-! ## Slices -/

/-- The slices of a sequence from `start` on: up to each of some offsets, and on from where a
separator of a given width ends that stands there. -/
def slices (width : Nat) (cs : List α) (start : Nat) : List Nat → List (List α)
  | [] => [cs.drop start]
  | k :: ks => cs.extract start k :: slices width cs (k + width) ks

section Slices

variable {separator : List α} {ps : List (List α)} {cs : List α} {start : Nat}

/-- What follows a piece and the separator after it. -/
theorem drop_glue {p q : List α} (h : cs.drop start = glue separator (p :: q :: ps)) :
    cs.drop (start + p.length + separator.length) = glue separator (q :: ps) := by
  rw [Nat.add_assoc, ← List.drop_drop, h, glue_cons _ _ (by simp)]
  exact List.drop_left' (by simp)

/-- Cut where they end, the pieces come back. -/
theorem slices_ends (hps : ps ≠ []) (h : cs.drop start = glue separator ps) :
    slices separator.length cs start (ends separator.length start (ps.map List.length)) = ps := by
  induction ps generalizing start with
  | nil => exact absurd rfl hps
  | cons p ps ih =>
    cases ps with
    | nil => exact congrArg (fun x => [x]) h
    | cons q ps =>
      have hpiece : cs.extract start (start + p.length) = p := by
        rw [List.extract_eq_take_drop, Nat.add_sub_cancel_left, h, glue_cons _ _ (by simp),
          List.append_assoc, List.take_left]
      rw [List.map_cons, List.map_cons, ends, slices, hpiece]
      exact congrArg (p :: ·) (ih (by simp) (drop_glue h))

/-- The separator stands where the pieces end. -/
theorem prefix_drop_of_mem_ends {k : Nat} (h : cs.drop start = glue separator ps)
    (hk : k ∈ ends separator.length start (ps.map List.length)) : separator <+: cs.drop k := by
  induction ps generalizing start with
  | nil => cases hk
  | cons p ps ih =>
    cases ps with
    | nil => cases hk
    | cons q ps =>
      rcases List.mem_cons.mp hk with rfl | hk
      · rw [← List.drop_drop, h, glue_cons _ _ (by simp), List.append_assoc, List.drop_left]
        exact List.prefix_append _ _
      · exact ih (drop_glue h) hk

end Slices

/-! ## Separators with a middle item -/

section Middle

variable {a b : α}

theorem head?_glue_ne (hab : a ≠ b) {ps : List (List α)} (h : ∀ p ∈ ps, b ∉ p) :
    (glue [a, b, a] ps).head? ≠ some b := by
  cases ps with
  | nil => simp [glue]
  | cons p ps =>
    have hp : b ∉ p := h p (.head ps)
    by_cases hps : ps = []
    · subst hps
      rw [glue, ← List.append_nil p]
      exact head?_append_ne hp (by simp)
    · rw [glue_cons _ _ hps, List.append_assoc]
      exact head?_append_ne hp fun heq => hab (Option.some.inj heq)

variable [BEq α] [LawfulBEq α]

theorem positions_glue (hab : a ≠ b) {ps : List (List α)} (h : ∀ p ∈ ps, b ∉ p) :
    positions [a, b, a] (glue [a, b, a] ps) = ends 3 0 (ps.map List.length) := by
  induction ps with
  | nil => rfl
  | cons p ps ih =>
    obtain ⟨hp, hps⟩ := List.forall_mem_cons.mp h
    cases ps with
    | nil =>
      have hcs : ([] : List α).head? ≠ some b := by simp
      have happend := positions_append (a := a) hp hcs
      rw [List.append_nil] at happend
      exact happend
    | cons q ps =>
      have hcs : (a :: b :: a :: glue [a, b, a] (q :: ps)).head? ≠ some b :=
        fun heq => hab (Option.some.inj heq)
      have hglue : glue [a, b, a] (p :: q :: ps) =
          p ++ a :: b :: a :: glue [a, b, a] (q :: ps) := by
        rw [glue_cons _ _ (by simp)]
        simp
      rw [hglue, positions_append hp hcs, positions_separator hab (head?_glue_ne hab hps), ih hps,
        ← ends_add, List.map_cons, ← ends_add]
      show _ = (0 + p.length) :: ends 3 (0 + p.length + 3) ((q :: ps).map List.length)
      rw [Nat.zero_add, Nat.add_zero, Nat.add_zero]

/-- So it is with something before the pieces, if that does not hold the middle item either. -/
theorem positions_append_glue (hab : a ≠ b) {before : List α} (hbefore : b ∉ before)
    {ps : List (List α)} (h : ∀ p ∈ ps, b ∉ p) :
    positions [a, b, a] (before ++ glue [a, b, a] ps) =
      ends 3 before.length (ps.map List.length) := by
  rw [positions_append hbefore (head?_glue_ne hab h), positions_glue hab h, ← ends_add,
    Nat.add_zero]

end Middle

/-! ## Pieces that are texts -/

theorem intercalate_eq_glue (separator : List α) (ps : List (List α)) :
    separator.intercalate ps = glue separator ps := by
  induction ps with
  | nil => rfl
  | cons p ps ih =>
    cases ps with
    | nil => exact List.intercalate_singleton
    | cons q ps =>
      rw [List.intercalate_cons_cons, ih]
      rfl

theorem not_mem_glue {c : α} {separator : List α} {ps : List (List α)} (hc : c ∉ separator)
    (h : ∀ p ∈ ps, c ∉ p) : c ∉ glue separator ps := by
  induction ps with
  | nil => exact List.not_mem_nil
  | cons p ps ih =>
    obtain ⟨hp, hps⟩ := List.forall_mem_cons.mp h
    by_cases hnil : ps = []
    · subst hnil
      exact hp
    · rw [glue_cons _ _ hnil, List.mem_append, List.mem_append, not_or, not_or]
      exact ⟨⟨hp, hc⟩, ih hps⟩

/-- Texts without the separator are cut as they were put together. -/
theorem split_intercalate {separator : String} {c : Char} (hs : separator.toList = [c])
    {ps : List String} (hne : ps ≠ []) (h : ∀ p ∈ ps, c ∉ p.toList) :
    split separator (separator.intercalate ps) = ps := by
  have hclear : ∀ p ∈ ps.map String.toList, ¬ [c] <:+: p := by
    intro p hp
    obtain ⟨text, htext, rfl⟩ := List.mem_map.mp hp
    rw [List.singleton_infix_iff]
    exact h text htext
  have hcut : pieces [c] (glue [c] (ps.map String.toList)) = ps.map String.toList := by
    refine (pieces_glue_iff (by simp) (by simpa using hne)).mpr ⟨fun p hp => ?_, fun p hp => ?_⟩
    · rw [EndsClear, List.dropLast_singleton, List.append_nil]
      exact hclear p (List.dropLast_subset _ hp)
    · exact hclear p (List.mem_of_getLast? hp)
  rw [split, String.toList_intercalate, intercalate_eq_glue, hs, hcut, List.map_map]
  simp [Function.comp_def]

end CaseGrid.Text
