import CaseGrid.Proofs.Tree.Grouping

/-
  Filing one path after the other, in any order. The invariant `Files` says of every node what was
  filed below it, by induction on the tree: the keys of its children are the names that come next,
  in the order of first sight, and each child is named like its key and has below it the rests of
  the paths that go on with this name.

  Proved: filing one more path fails just if it begins with one that is there or the other way round
  (`insert_of_clash`), and otherwise keeps the invariant (`insert_of_clear`); from these, by
  induction on the cases, that a list of cases gives a tree just if no path begins with that of
  another case (`ofCases_of_prefixFree`, `ofCases_of_not_prefixFree`).
-/

namespace CaseGrid

namespace Tree

variable {α : Type}

/-! ## The invariant -/

/--
A tree of a name at a depth in which paths were filed. A node that holds something is the end of one
path and of no other; any other node has a child for each name that comes next, in the order of
first sight, in which the rests were filed.
-/
inductive Files : Value → Int → List (Path × α) → Tree α → Prop
  | leaf (n : Value) (d : Int) (a : α) : Files n d [([], a)] (.node n d (some a) [])
  | inner {n : Value} {d : Int} {xs : List (Path × α)} {es : Entries (Tree α)}
      (nonempty : ∀ x ∈ xs, x.1 ≠ []) (keys : es.keys = heads xs)
      (below : ∀ e ∈ es, Files e.1 (d + 1) (rests e.1 xs) e.2) : Files n d xs (.node n d none es)

theorem files_bareAt (d : Int) (n : Value) : Files n d [] (bareAt d n : Tree α) :=
  .inner (List.forall_mem_nil _) rfl (List.forall_mem_nil _)

/-- A path begins with one that was filed, or one that was filed begins with it. -/
def Clash (xs : List (Path × α)) (p : Path) : Prop :=
  ∃ x ∈ xs, x.1 <+: p ∨ p <+: x.1

variable {xs : List (Path × α)} {n key : Value} {d : Int} {t : Tree α}

theorem clash_cons_iff (h : Texts xs) (hne : ∀ x ∈ xs, x.1 ≠ []) (path : Path) :
    Clash xs (key :: path) ↔ Clash (rests key xs) path := by
  constructor
  · rintro ⟨⟨p, a⟩, hx, hclash⟩
    cases p with
    | nil => exact absurd rfl (hne _ hx)
    | cons k p =>
      rw [List.cons_prefix_cons, List.cons_prefix_cons] at hclash
      have hk : k = key := hclash.elim And.left fun hkey => hkey.1.symm
      subst hk
      exact ⟨(p, a), (mem_rests_iff h).mpr hx, hclash.imp And.right And.right⟩
  · rintro ⟨x, hx, hclash⟩
    refine ⟨(key :: x.1, x.2), (mem_rests_iff h).mp hx, ?_⟩
    rw [List.cons_prefix_cons, List.cons_prefix_cons]
    simpa using hclash

/-- Where no path begins with a name, none is in the way of a path that does. -/
theorem not_clash_of_not_mem_heads (h : Texts xs) (hne : ∀ x ∈ xs, x.1 ≠ [])
    (hkey : key ∉ heads xs) (path : Path) : ¬ Clash xs (key :: path) := by
  rw [clash_cons_iff h hne, (rests_eq_nil_iff h).mpr hkey]
  rintro ⟨x, hx, -⟩
  exact absurd hx List.not_mem_nil

/-- The child under a key, between others under other keys. -/
theorem exists_child {es : Entries (Tree α)} (h : Texts xs) (hkeys : es.keys = heads xs)
    (hkey : key ∈ heads xs) :
    ∃ before c after, es = before ++ (key, c) :: after ∧ ∀ e ∈ before ++ after, e.1 ≠ key := by
  have hnodup := nodup_heads h
  rw [← hkeys, Entries.keys] at hkey hnodup
  obtain ⟨⟨_, c⟩, hc, rfl⟩ := List.mem_map.mp hkey
  obtain ⟨before, after, rfl⟩ := List.append_of_mem hc
  rw [List.map_append, List.map_cons, List.nodup_middle, List.nodup_cons,
    ← List.map_append] at hnodup
  exact ⟨before, c, after, rfl, fun e he heq => hnodup.1 (heq ▸ List.mem_map_of_mem he)⟩

theorem mem_heads_of_mem {es : Entries (Tree α)} (hkeys : es.keys = heads xs)
    {e : Value × Tree α} (he : e ∈ es) : e.1 ∈ heads xs := by
  rw [← hkeys]
  exact List.mem_map_of_mem he

theorem isText_key {es : Entries (Tree α)} (h : Texts xs) (hkeys : es.keys = heads xs) :
    ∀ e ∈ es, e.1.IsText :=
  fun e he => h.heads e.1 (mem_heads_of_mem hkeys he)

/-! ## One more path -/

/-- A path that clashes with one that was filed cannot be filed. -/
theorem insert_of_clash {p : Path} (h : Files n d xs t) (hxs : Texts xs) (hp : ∀ v ∈ p, v.IsText)
    (hclash : Clash xs p) (a : α) :
    ∃ conflict, insert p t a = .error conflict ∧
      (conflict = .beyond ∨ conflict = .repeated) := by
  induction p generalizing n d xs t with
  | nil =>
    cases h with
    | leaf n d b => exact ⟨_, rfl, .inr rfl⟩
    | @inner n d xs es nonempty keys below =>
      -- some path goes on here, so that there is a child for its name
      obtain ⟨⟨path, b⟩, hx, -⟩ := hclash
      obtain ⟨k, path, rfl⟩ := List.exists_cons_of_ne_nil (nonempty _ hx)
      have hk : k ∈ es.keys := by
        rw [keys]
        exact (mem_heads_iff hxs).mpr ⟨path, b, hx⟩
      obtain ⟨e, he, -⟩ := List.mem_map.mp hk
      obtain ⟨e, es, rfl⟩ := List.exists_cons_of_ne_nil (List.ne_nil_of_mem he)
      exact ⟨_, rfl, .inr rfl⟩
  | cons k p ih =>
    cases h with
    | leaf n d b => exact ⟨_, rfl, .inl rfl⟩
    | @inner n d xs es nonempty keys below =>
      have hk : k ∈ heads xs := by
        by_contra hk
        exact not_clash_of_not_mem_heads hxs nonempty hk p hclash
      have htexts := isText_key hxs keys
      obtain ⟨before, c, after, rfl, hothers⟩ := exists_child hxs keys hk
      have hbefore : ∀ e ∈ before, e.1.alike k = false := fun e he =>
        (htexts e (by simp [he])).alike_eq_false (hothers e (List.mem_append_left _ he))
      obtain ⟨conflict, hfails, hconflict⟩ := ih (below (k, c) (by simp)) (hxs.rests k)
        (fun v hv => hp v (.tail _ hv)) ((clash_cons_iff hxs nonempty p).mp hclash)
      refine ⟨conflict, ?_, hconflict⟩
      rw [insert_first (hp _ List.mem_cons_self) hbefore, hfails]
      rfl

theorem nonempty_concat (nonempty : ∀ x ∈ xs, x.1 ≠ []) (path : Path) (a : α) :
    ∀ x ∈ xs ++ [(key :: path, a)], x.1 ≠ [] := by
  intro x hx
  rcases List.mem_append.mp hx with hx | hx
  · exact nonempty x hx
  · obtain rfl := List.mem_singleton.mp hx
    exact List.cons_ne_nil key path

section Inner

variable {path : Path} {a : α} (hxs : Texts xs) (hkey : key.IsText)
  (nonempty : ∀ x ∈ xs, x.1 ≠ [])

include hxs hkey nonempty

/-- A path that goes on with the key of a child changes that child. -/
theorem files_of_changed {before after : Entries (Tree α)} {c c' : Tree α}
    (keys : Entries.keys (before ++ (key, c) :: after) = heads xs)
    (below : ∀ e ∈ before ++ (key, c) :: after, Files e.1 (d + 1) (rests e.1 xs) e.2)
    (hothers : ∀ e ∈ before ++ after, e.1 ≠ key)
    (hfiles : Files key (d + 1) (rests key xs ++ [(path, a)]) c') :
    Files n d (xs ++ [(key :: path, a)]) (.node n d none (before ++ (key, c') :: after)) := by
  have hmem : key ∈ heads xs := mem_heads_of_mem (e := (key, c)) keys (by simp)
  refine .inner (nonempty_concat nonempty path a) ?_ fun e he => ?_
  · rw [heads_concat_of_mem hxs hmem, ← keys]
    simp [Entries.keys]
  · rw [List.mem_append, List.mem_cons] at he
    have hother (he : e ∈ before ++ after) :
        Files e.1 (d + 1) (rests e.1 (xs ++ [(key :: path, a)])) e.2 := by
      rw [rests_concat_other hkey (Ne.symm (hothers e he))]
      refine below e ?_
      rw [List.mem_append, List.mem_cons]
      exact (List.mem_append.mp he).imp_right .inr
    rcases he with he | rfl | he
    · exact hother (List.mem_append_left _ he)
    · rw [rests_concat_same hkey]
      exact hfiles
    · exact hother (List.mem_append_right _ he)

/-- A path that begins with a new name adds a child. -/
theorem files_of_added {es : Entries (Tree α)} {c : Tree α} (keys : es.keys = heads xs)
    (below : ∀ e ∈ es, Files e.1 (d + 1) (rests e.1 xs) e.2) (hnew : key ∉ heads xs)
    (hfiles : Files key (d + 1) [(path, a)] c) :
    Files n d (xs ++ [(key :: path, a)]) (.node n d none (es ++ [(key, c)])) := by
  refine .inner (nonempty_concat nonempty path a) ?_ fun e he => ?_
  · rw [heads_concat_of_not_mem hxs hnew, ← keys]
    exact List.map_append
  · rcases List.mem_append.mp he with hold | he
    · have hne : key ≠ e.1 := fun heq => hnew (heq ▸ mem_heads_of_mem keys hold)
      rw [rests_concat_other hkey hne]
      exact below e hold
    · obtain rfl := List.mem_singleton.mp he
      rw [rests_concat_same hkey, (rests_eq_nil_iff hxs).mpr hnew]
      exact hfiles

end Inner

/-- A path that clashes with none is filed, and the tree is that of one more path. -/
theorem insert_of_clear {p : Path} (h : Files n d xs t) (hxs : Texts xs) (hp : ∀ v ∈ p, v.IsText)
    (hclear : ¬ Clash xs p) (a : α) :
    ∃ t', insert p t a = .ok t' ∧ Files n d (xs ++ [(p, a)]) t' := by
  induction p generalizing n d xs t with
  | nil =>
    cases h with
    | leaf n d b => exact absurd ⟨_, List.mem_cons_self, .inl List.nil_prefix⟩ hclear
    | @inner n d xs es nonempty keys below =>
      have hnone : xs = [] := by
        by_contra hne
        obtain ⟨x, xs, rfl⟩ := List.exists_cons_of_ne_nil hne
        exact hclear ⟨x, List.mem_cons_self, .inr List.nil_prefix⟩
      subst hnone
      obtain rfl : es = [] := List.map_eq_nil_iff.mp keys
      exact ⟨_, rfl, .leaf n d a⟩
  | cons k p ih =>
    cases h with
    | leaf n d b => exact absurd ⟨_, List.mem_cons_self, .inl List.nil_prefix⟩ hclear
    | @inner n d xs es nonempty keys below =>
      have hk : k.IsText := hp k List.mem_cons_self
      have hrest : ∀ v ∈ p, v.IsText := fun v hv => hp v (.tail _ hv)
      have htexts := isText_key hxs keys
      -- the rest of the path goes into the child under the key, or into a new one that is bare
      by_cases hmem : k ∈ heads xs
      · obtain ⟨before, c, after, rfl, hothers⟩ := exists_child hxs keys hmem
        have hbefore : ∀ e ∈ before, e.1.alike k = false := fun e he =>
          (htexts e (by simp [he])).alike_eq_false (hothers e (List.mem_append_left _ he))
        obtain ⟨c', hc', hfiles⟩ := ih (below (k, c) (by simp)) (hxs.rests k) hrest
          (mt (clash_cons_iff hxs nonempty p).mpr hclear)
        refine ⟨.node n d none (before ++ (k, c') :: after), ?_,
          files_of_changed hxs hk nonempty keys below hothers hfiles⟩
        rw [insert_first hk hbefore, hc']
        rfl
      · have hall : ∀ e ∈ es, e.1.alike k = false := by
          intro e he
          refine (htexts e he).alike_eq_false ?_
          rintro rfl
          exact hmem (mem_heads_of_mem keys he)
        have hempty : ¬ Clash ([] : List (Path × α)) p := fun ⟨x, hx, _⟩ => nomatch hx
        obtain ⟨c, hc, hfiles⟩ := ih (files_bareAt (d + 1) k) (fun x hx => nomatch hx) hrest hempty
        refine ⟨.node n d none (es ++ [(k, c)]), ?_,
          files_of_added hxs hk nonempty keys below hmem hfiles⟩
        rw [insert_new hk hall, hc]
        rfl

/-! ## All cases -/

/-- Neither of two paths begins with the other. -/
def Apart (p q : Path) : Prop :=
  ¬ p <+: q ∧ ¬ q <+: p

/-- Cases, each under its path. -/
def byPath (cases : List Case) : List (Path × Case) :=
  cases.map fun c => (c.path, c)

/-- The paths of some cases are not empty, and all segments are texts. -/
def Filable (cases : List Case) : Prop :=
  ∀ c ∈ cases, c.path ≠ [] ∧ ∀ v ∈ c.path, v.IsText

theorem Filable.texts {cases : List Case} (h : Filable cases) : Texts (byPath cases) := by
  intro x hx
  obtain ⟨c, hc, rfl⟩ := List.mem_map.mp hx
  exact (h c hc).2

theorem Filable.left {before cases : List Case} (h : Filable (before ++ cases)) :
    Filable before :=
  fun c hc => h c (List.mem_append_left cases hc)

/-- A case whose path clashes fails as a malformed scenario. -/
theorem conflictFailure_eq {defaults : Config} {c : Case} (hne : c.path ≠ [])
    (hc : ∀ v ∈ c.path, v.IsText) {conflict : Conflict}
    (h : conflict = .beyond ∨ conflict = .repeated) :
    ∃ e, conflictFailure defaults c conflict = .specification e := by
  obtain ⟨name, hname⟩ := Case.exists_name hc defaults
  obtain ⟨title, path, hpath⟩ := List.exists_cons_of_ne_nil hne
  have htitle : c.title = .ok title := by rw [Case.title, hpath]
  rcases h with rfl | rfl
  · exact ⟨_, by rw [conflictFailure, hname, htitle]⟩
  · exact ⟨_, by rw [conflictFailure, hname, htitle]⟩

section Cases

variable (defaults : Config) {before : List Case} {c : Case} {t : Tree Case}

theorem clash_byPath_iff : Clash (byPath before) c.path ↔ ¬ ∀ b ∈ before, Apart b.path c.path := by
  simp only [Clash, byPath, List.mem_map, Apart]
  push Not
  constructor
  · rintro ⟨_, ⟨b, hb, rfl⟩, hclash⟩
    exact ⟨b, hb, fun hno => hclash.resolve_left hno⟩
  · rintro ⟨b, hb, hclash⟩
    exact ⟨_, ⟨b, hb, rfl⟩, or_iff_not_imp_left.mpr hclash⟩

/-- One more case. -/
theorem insertCase_of_apart (h : Files n 0 (byPath before) t) (hfilable : Filable (before ++ [c]))
    (hapart : ∀ b ∈ before, Apart b.path c.path) :
    ∃ t', insertCase defaults t c = .ok t' ∧ Files n 0 (byPath (before ++ [c])) t' := by
  have hclear : ¬ Clash (byPath before) c.path := fun hclash => clash_byPath_iff.mp hclash hapart
  obtain ⟨t', ht', hfiles⟩ := insert_of_clear h hfilable.left.texts
    (hfilable c (by simp)).2 hclear c
  refine ⟨t', mapError_eq_ok_iff.mpr ht', ?_⟩
  rw [byPath, List.map_append]
  exact hfiles

theorem insertCase_of_clash (h : Files n 0 (byPath before) t) (hfilable : Filable (before ++ [c]))
    (hclash : ¬ ∀ b ∈ before, Apart b.path c.path) :
    ∃ e, insertCase defaults t c = .error (.specification e) := by
  obtain ⟨hne, hc⟩ := hfilable c (by simp)
  obtain ⟨conflict, hfails, hconflict⟩ :=
    insert_of_clash h hfilable.left.texts hc (clash_byPath_iff.mpr hclash) c
  obtain ⟨e, he⟩ := conflictFailure_eq hne hc hconflict
  exact ⟨e, mapError_eq_error_iff.mpr ⟨conflict, hfails, he⟩⟩

/-- No path of a case begins with that of another one. -/
def PrefixFree (cases : List Case) : Prop :=
  cases.Pairwise fun c d => Apart c.path d.path

theorem prefixFree_concat_iff : PrefixFree (before ++ [c]) ↔
    PrefixFree before ∧ ∀ b ∈ before, Apart b.path c.path := by
  simp [PrefixFree, List.pairwise_append]

/-- Cases with paths apart are all filed. -/
theorem insertCases_of_prefixFree {cases : List Case} (h : Files n 0 (byPath before) t)
    (hfilable : Filable (before ++ cases)) (hfree : PrefixFree (before ++ cases)) :
    ∃ root, cases.foldlM (insertCase defaults) t = .ok root ∧
      Files n 0 (byPath (before ++ cases)) root := by
  induction cases generalizing before t with
  | nil => exact ⟨t, rfl, by rwa [List.append_nil]⟩
  | cons c cases ih =>
    rw [List.append_cons] at hfilable hfree ⊢
    have hhead := (List.pairwise_append.mp hfree).1
    obtain ⟨t', ht', hfiles⟩ := insertCase_of_apart defaults h hfilable.left
      (prefixFree_concat_iff.mp hhead).2
    obtain ⟨root, hroot, hall⟩ := ih hfiles hfilable hfree
    exact ⟨root, bind_eq_ok_iff.mpr ⟨t', ht', hroot⟩, hall⟩

/-- Of other cases the first one that clashes with one before it fails. -/
theorem insertCases_of_not_prefixFree {cases : List Case} (h : Files n 0 (byPath before) t)
    (hfilable : Filable (before ++ cases)) (hbefore : PrefixFree before)
    (hfree : ¬ PrefixFree (before ++ cases)) :
    ∃ e, cases.foldlM (insertCase defaults) t = .error (.specification e) := by
  induction cases generalizing before t with
  | nil =>
    rw [List.append_nil] at hfree
    exact absurd hbefore hfree
  | cons c cases ih =>
    rw [List.append_cons] at hfilable hfree
    by_cases hapart : ∀ b ∈ before, Apart b.path c.path
    · obtain ⟨t', ht', hfiles⟩ := insertCase_of_apart defaults h hfilable.left hapart
      obtain ⟨e, he⟩ := ih hfiles hfilable (prefixFree_concat_iff.mpr ⟨hbefore, hapart⟩) hfree
      exact ⟨e, bind_eq_error_iff.mpr (.inr ⟨t', ht', he⟩)⟩
    · obtain ⟨e, he⟩ := insertCase_of_clash defaults h hfilable.left hapart
      exact ⟨e, bind_eq_error_iff.mpr (.inl he)⟩

end Cases

theorem files_byPath_nil : Files (.text "") 0 (byPath []) (bare (.text "")) :=
  files_bareAt 0 (.text "")

theorem ofCases_of_prefixFree (defaults : Config) {cases : List Case} (hfilable : Filable cases)
    (hfree : PrefixFree cases) :
    ∃ root, ofCases defaults cases = .ok root ∧ Files (.text "") 0 (byPath cases) root :=
  insertCases_of_prefixFree defaults files_byPath_nil hfilable hfree

theorem ofCases_of_not_prefixFree (defaults : Config) {cases : List Case}
    (hfilable : Filable cases) (hfree : ¬ PrefixFree cases) :
    ∃ e, ofCases defaults cases = .error (.specification e) :=
  insertCases_of_not_prefixFree defaults files_byPath_nil hfilable .nil hfree

/-- Paths are apart just if at no two positions one path begins with the other. -/
theorem not_prefixFree_iff {cases : List Case} : ¬ PrefixFree cases ↔
    ∃ (i j : Nat) (c d : Case), i ≠ j ∧ cases[i]? = some c ∧ cases[j]? = some d ∧
      c.path <+: d.path := by
  rw [PrefixFree, List.pairwise_iff_getElem]
  constructor
  · intro h
    push Not at h
    obtain ⟨i, j, hi, hj, hlt, hclash⟩ := h
    by_cases hbegins : cases[i].path <+: cases[j].path
    · exact ⟨i, j, _, _, by omega, List.getElem?_eq_getElem hi, List.getElem?_eq_getElem hj,
        hbegins⟩
    · have hother : cases[j].path <+: cases[i].path := by
        by_contra hother
        exact hclash ⟨hbegins, hother⟩
      exact ⟨j, i, _, _, by omega, List.getElem?_eq_getElem hj, List.getElem?_eq_getElem hi,
        hother⟩
  · rintro ⟨i, j, c, d, hne, hc, hd, hbegins⟩ h
    obtain ⟨hi, rfl⟩ := List.getElem?_eq_some_iff.mp hc
    obtain ⟨hj, rfl⟩ := List.getElem?_eq_some_iff.mp hd
    rcases Nat.lt_or_gt_of_ne hne with hlt | hlt
    · exact (h i j hi hj hlt).1 hbegins
    · exact (h j i hj hi hlt).2 hbegins

end Tree

end CaseGrid
