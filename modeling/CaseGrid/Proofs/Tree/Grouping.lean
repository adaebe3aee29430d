import CaseGrid.Proofs.Tree.Filing
import Mathlib.Data.List.Induction
import Mathlib.Data.List.Nodup

/-
  Paths by the names that they begin with. The names are in the order in which they are first seen,
  and each name has the rests of the paths that begin with it, in their order.

  Proved: what the names and the rests become with one more path (`heads_concat_of_mem`,
  `heads_concat_of_not_mem`, `rests_concat_same`, `rests_concat_other`), that the names are in the
  order of first sight (`pairwise_heads`), that this order is kept going down (`SeenBefore.cons`),
  and that the paths of all names are the paths (`groups_perm`).
-/

namespace CaseGrid

namespace Tree

variable {α : Type}

/-- All segments of all paths are texts. -/
def Texts (xs : List (Path × α)) : Prop :=
  ∀ x ∈ xs, ∀ v ∈ x.1, v.IsText

theorem Texts.left {xs ys : List (Path × α)} (h : Texts (xs ++ ys)) : Texts xs :=
  fun x hx => h x (List.mem_append_left ys hx)

theorem Texts.right {xs ys : List (Path × α)} (h : Texts (xs ++ ys)) : Texts ys :=
  fun x hx => h x (List.mem_append_right xs hx)

/-! ## The rests of paths that begin with a name -/

/-- What follows a name at the beginning of a path. -/
def rest? (key : Value) : Path → Option Path
  | [] => none
  | k :: path => if k.alike key then some path else none

/-- The rests of the paths that begin with a name, in order. -/
def rests (key : Value) (xs : List (Path × α)) : List (Path × α) :=
  xs.filterMap fun x => (rest? key x.1).map fun path => (path, x.2)

variable {xs : List (Path × α)} {key : Value}

theorem rest?_eq_some_iff {p path : Path} (hp : ∀ v ∈ p, v.IsText) :
    rest? key p = some path ↔ p = key :: path := by
  cases p with
  | nil => simp [rest?]
  | cons k p =>
    have hk : k.alike key = true ↔ k = key := (hp k List.mem_cons_self).alike_iff
    simp [rest?, hk]

theorem mem_rests_iff (h : Texts xs) {path : Path} {a : α} :
    (path, a) ∈ rests key xs ↔ (key :: path, a) ∈ xs := by
  rw [rests, List.mem_filterMap]
  constructor
  · rintro ⟨⟨p, b⟩, hx, hrest⟩
    obtain ⟨path', hpath', hpair⟩ := Option.map_eq_some_iff.mp hrest
    cases hpair
    rw [rest?_eq_some_iff (h _ hx)] at hpath'
    exact hpath' ▸ hx
  · intro hx
    exact ⟨_, hx, by rw [(rest?_eq_some_iff (h _ hx)).mpr rfl]; rfl⟩

theorem Texts.rests (h : Texts xs) (key : Value) : Texts (rests key xs) :=
  fun x hx v hv => h (key :: x.1, x.2) ((mem_rests_iff h).mp hx) v (List.mem_cons_of_mem key hv)

theorem rests_concat_same (hkey : key.IsText) (xs : List (Path × α)) (path : Path) (a : α) :
    rests key (xs ++ [(key :: path, a)]) = rests key xs ++ [(path, a)] := by
  have halike : key.alike key = true := hkey.alike_iff.mpr rfl
  simp [rests, rest?, List.filterMap_append, halike]

theorem rests_concat_other {k : Value} (hk : k.IsText) (hne : k ≠ key) (xs : List (Path × α))
    (path : Path) (a : α) : rests key (xs ++ [(k :: path, a)]) = rests key xs := by
  have halike : k.alike key = false := hk.alike_eq_false hne
  simp [rests, rest?, List.filterMap_append, halike]

/-! ## The names that paths begin with -/

/-- Some names, with that at the beginning of a path if it is new. -/
def addHead (names : List Value) : Path → List Value
  | [] => names
  | k :: _ => if names.any fun n => n.alike k then names else names ++ [k]

/-- The names that paths begin with, in the order in which they are first seen. -/
def heads (xs : List (Path × α)) : List Value :=
  xs.foldl (fun names x => addHead names x.1) []

theorem heads_concat (xs : List (Path × α)) (x : Path × α) :
    heads (xs ++ [x]) = addHead (heads xs) x.1 := by
  rw [heads, List.foldl_concat]
  rfl

theorem addHead_of_mem {names : List Value} (h : ∀ n ∈ names, n.IsText) {k : Value}
    (hk : k ∈ names) (path : Path) : addHead names (k :: path) = names := by
  have hany : names.any (fun n => n.alike k) = true :=
    List.any_eq_true.mpr ⟨k, hk, (h k hk).alike_iff.mpr rfl⟩
  rw [addHead, if_pos hany]

theorem addHead_of_not_mem {names : List Value} (h : ∀ n ∈ names, n.IsText) {k : Value}
    (hk : k ∉ names) (path : Path) : addHead names (k :: path) = names ++ [k] := by
  have hany : ¬ names.any (fun n => n.alike k) = true := by
    rw [List.any_eq_true]
    rintro ⟨n, hn, halike⟩
    exact hk ((h n hn).alike_iff.mp halike ▸ hn)
  rw [addHead, if_neg hany]

/-- One more path leaves the names as they are or adds its own. -/
theorem mem_addHead {names : List Value} {path : Path} {n : Value} (h : n ∈ addHead names path) :
    n ∈ names ∨ ∃ rest, path = n :: rest := by
  cases path with
  | nil => exact .inl h
  | cons k rest =>
    rw [addHead] at h
    split at h
    · exact .inl h
    · rcases List.mem_append.mp h with h | h
      · exact .inl h
      · exact .inr ⟨rest, by rw [List.mem_singleton.mp h]⟩

theorem subset_addHead (names : List Value) (path : Path) : names ⊆ addHead names path := by
  intro n hn
  cases path with
  | nil => exact hn
  | cons k rest =>
    rw [addHead]
    split
    · exact hn
    · exact List.mem_append_left _ hn

theorem exists_of_mem_heads (h : key ∈ heads xs) : ∃ path a, (key :: path, a) ∈ xs := by
  induction xs using List.reverseRecOn with
  | nil => exact absurd h List.not_mem_nil
  | append_singleton xs x ih =>
    rw [heads_concat] at h
    rcases mem_addHead h with h | ⟨rest, hx⟩
    · obtain ⟨path, a, hmem⟩ := ih h
      exact ⟨path, a, List.mem_append_left _ hmem⟩
    · exact ⟨rest, x.2, by simp [← hx]⟩

theorem Texts.heads (h : Texts xs) : ∀ n ∈ heads xs, n.IsText := by
  intro n hn
  obtain ⟨path, a, hx⟩ := exists_of_mem_heads hn
  exact h _ hx n List.mem_cons_self

theorem heads_concat_of_mem (h : Texts xs) (hkey : key ∈ heads xs) (path : Path) (a : α) :
    heads (xs ++ [(key :: path, a)]) = heads xs := by
  rw [heads_concat, addHead_of_mem h.heads hkey]

theorem heads_concat_of_not_mem (h : Texts xs) (hkey : key ∉ heads xs) (path : Path) (a : α) :
    heads (xs ++ [(key :: path, a)]) = heads xs ++ [key] := by
  rw [heads_concat, addHead_of_not_mem h.heads hkey]

/-- The names that paths begin with are just these. -/
theorem mem_heads_iff (h : Texts xs) : key ∈ heads xs ↔ ∃ path a, (key :: path, a) ∈ xs := by
  refine ⟨exists_of_mem_heads, ?_⟩
  rintro ⟨path, a, hx⟩
  induction xs using List.reverseRecOn with
  | nil => exact absurd hx List.not_mem_nil
  | append_singleton xs x ih =>
    rcases List.mem_append.mp hx with hx | hx
    · rw [heads_concat]
      exact subset_addHead _ _ (ih h.left hx)
    · obtain rfl := List.mem_singleton.mp hx
      by_cases hkey : key ∈ heads xs
      · rwa [heads_concat_of_mem h.left hkey]
      · rw [heads_concat_of_not_mem h.left hkey]
        exact List.mem_append_right _ List.mem_cons_self

theorem rests_eq_nil_iff (h : Texts xs) : rests key xs = [] ↔ key ∉ heads xs := by
  rw [mem_heads_iff h, List.eq_nil_iff_forall_not_mem]
  constructor
  · rintro hnone ⟨path, a, hx⟩
    exact hnone (path, a) ((mem_rests_iff h).mpr hx)
  · rintro hnone ⟨path, a⟩ hx
    exact hnone ⟨path, a, (mem_rests_iff h).mp hx⟩

/-! ## First sight -/

/-- Some path that begins with the one comes before every path that begins with the other. -/
inductive SeenBefore (p q : Path) : List Path → Prop
  | here {path : Path} {paths : List Path} :
    p <+: path → ¬ q <+: path → SeenBefore p q (path :: paths)
  | later {path : Path} {paths : List Path} :
    ¬ q <+: path → SeenBefore p q paths → SeenBefore p q (path :: paths)

variable {p q : Path} {paths : List Path}

theorem SeenBefore.append (h : SeenBefore p q paths) (more : List Path) :
    SeenBefore p q (paths ++ more) := by
  induction h with
  | here hp hq => exact .here hp hq
  | later hq _ ih => exact .later hq ih

theorem SeenBefore.ne (h : SeenBefore p q paths) : p ≠ q := by
  rintro rfl
  induction h with
  | here hp hq => exact hq hp
  | later _ _ ih => exact ih

/-- A path that was seen comes before one that was not. -/
theorem seenBefore_of_unseen (hp : ∃ path ∈ paths, p <+: path)
    (hq : ∀ path ∈ paths, ¬ q <+: path) : SeenBefore p q paths := by
  induction paths with
  | nil =>
    obtain ⟨path, hpath, -⟩ := hp
    exact absurd hpath List.not_mem_nil
  | cons r paths ih =>
    have hr := hq r List.mem_cons_self
    by_cases hpr : p <+: r
    · exact .here hpr hr
    · obtain ⟨path, hpath, hbegins⟩ := hp
      have hlater : path ∈ paths := by
        rcases List.mem_cons.mp hpath with rfl | hlater
        · exact absurd hbegins hpr
        · exact hlater
      exact .later hr (ih ⟨path, hlater, hbegins⟩ fun s hs => hq s (.tail _ hs))

theorem singleton_prefix_iff {path : Path} : [key] <+: path ↔ ∃ rest, path = key :: rest := by
  cases path with
  | nil => simp
  | cons k path => simp [List.cons_prefix_cons, eq_comm]

/-- The names that paths begin with are in the order in which they are first seen. -/
theorem pairwise_heads (h : Texts xs) :
    (heads xs).Pairwise fun a b => SeenBefore [a] [b] (xs.map Prod.fst) := by
  induction xs using List.reverseRecOn with
  | nil => exact .nil
  | append_singleton xs x ih =>
    obtain ⟨path, a⟩ := x
    have hstill := (ih h.left).imp fun hseen => hseen.append [path]
    rw [List.map_append, List.map_singleton]
    cases path with
    | nil => rwa [heads_concat]
    | cons k path =>
      by_cases hk : k ∈ heads xs
      · rwa [heads_concat_of_mem h.left hk]
      · rw [heads_concat_of_not_mem h.left hk, List.pairwise_append]
        refine ⟨hstill, List.pairwise_singleton _ _, fun n hn m hm => ?_⟩
        obtain rfl := List.mem_singleton.mp hm
        refine (seenBefore_of_unseen ?_ ?_).append _
        · obtain ⟨rest, b, hx⟩ := exists_of_mem_heads hn
          exact ⟨n :: rest, List.mem_map_of_mem hx, singleton_prefix_iff.mpr ⟨rest, rfl⟩⟩
        · intro p hp hbegins
          obtain ⟨x, hx, rfl⟩ := List.mem_map.mp hp
          obtain ⟨rest, hrest⟩ := singleton_prefix_iff.mp hbegins
          exact hk ((mem_heads_iff h.left).mpr ⟨rest, x.2, by rwa [← hrest]⟩)

theorem nodup_heads (h : Texts xs) : (heads xs).Nodup :=
  (pairwise_heads h).imp fun hseen heq => hseen.ne (by rw [heq])

/-- What is seen first among the rests is seen first among the paths. -/
theorem SeenBefore.cons (hpaths : ∀ path ∈ paths, ∀ v ∈ path, v.IsText)
    (h : SeenBefore p q (paths.filterMap (rest? key))) :
    SeenBefore (key :: p) (key :: q) paths := by
  induction paths with
  | nil => cases h
  | cons path paths ih =>
    have hpath := hpaths path List.mem_cons_self
    have hlater : ∀ r ∈ paths, ∀ v ∈ r, v.IsText := fun r hr => hpaths r (.tail _ hr)
    cases hrest : rest? key path with
    | none =>
      rw [List.filterMap_cons_none hrest] at h
      refine .later ?_ (ih hlater h)
      rintro ⟨more, hmore⟩
      cases hrest.symm.trans ((rest?_eq_some_iff hpath).mpr hmore.symm)
    | some rest =>
      rw [List.filterMap_cons_some hrest] at h
      obtain rfl := (rest?_eq_some_iff hpath).mp hrest
      have hcons (r : Path) : key :: r <+: key :: rest ↔ r <+: rest := by
        rw [List.cons_prefix_cons, and_iff_right rfl]
      cases h with
      | here hp hq => exact .here ((hcons p).mpr hp) (mt (hcons q).mp hq)
      | later hq h => exact .later (mt (hcons q).mp hq) (ih hlater h)

theorem map_fst_rests (key : Value) (xs : List (Path × α)) :
    (rests key xs).map Prod.fst = (xs.map Prod.fst).filterMap (rest? key) := by
  rw [rests, List.map_filterMap, List.filterMap_map]
  refine List.filterMap_congr fun x _ => ?_
  rw [Option.map_map]
  exact Option.map_id'

/-! ## All names -/

/-- The rests of all names, each with its name again, are the paths in another order. -/
theorem groups_perm (h : Texts xs) (hne : ∀ x ∈ xs, x.1 ≠ []) :
    ((heads xs).flatMap fun k => under k (rests k xs)).Perm xs := by
  induction xs using List.reverseRecOn with
  | nil => exact .nil
  | append_singleton xs x ih =>
    obtain ⟨path, a⟩ := x
    obtain ⟨k, path, rfl⟩ := List.exists_cons_of_ne_nil (hne (path, a) (by simp))
    have hk : k.IsText := h (k :: path, a) (by simp) k List.mem_cons_self
    have hgroups := ih h.left fun x hx => hne x (List.mem_append_left _ hx)
    have hother (names : List Value) (hnames : k ∉ names) :
        (names.flatMap fun n => under n (rests n (xs ++ [(k :: path, a)]))) =
          names.flatMap fun n => under n (rests n xs) := by
      refine List.flatMap_congr fun n hn => ?_
      rw [rests_concat_other hk fun heq => hnames (heq ▸ hn)]
    have hown : under k (rests k (xs ++ [(k :: path, a)])) =
        under k (rests k xs) ++ [(k :: path, a)] := by
      rw [rests_concat_same hk, under, List.map_append]
      rfl
    -- the path is the last one of its name, which is an old name or the last of all
    by_cases hmem : k ∈ heads xs
    · rw [heads_concat_of_mem h.left hmem]
      have hnodup := nodup_heads h.left
      obtain ⟨before, after, hsplit⟩ := List.append_of_mem hmem
      rw [hsplit] at hgroups hnodup ⊢
      obtain ⟨hbefore, hafter⟩ : k ∉ before ∧ k ∉ after := by
        rw [List.nodup_middle, List.nodup_cons, List.mem_append, not_or] at hnodup
        exact hnodup.1
      rw [List.flatMap_append, List.flatMap_cons] at hgroups ⊢
      rw [hother before hbefore, hother after hafter, hown]
      generalize before.flatMap (fun n => under n (rests n xs)) = bs at hgroups ⊢
      generalize after.flatMap (fun n => under n (rests n xs)) = as at hgroups ⊢
      have hmoved : (bs ++ (under k (rests k xs) ++ [(k :: path, a)] ++ as)).Perm
          (bs ++ (under k (rests k xs) ++ as) ++ [(k :: path, a)]) := by
        simp only [List.append_assoc]
        exact (List.perm_append_comm.append_left _).append_left _
      exact hmoved.trans (hgroups.append_right _)
    · rw [heads_concat_of_not_mem h.left hmem, List.flatMap_append, hother _ hmem]
      refine hgroups.append ?_
      rw [List.flatMap_singleton, hown, (rests_eq_nil_iff h.left).mpr hmem]
      exact .refl _

end Tree

end CaseGrid
