import CaseGrid.Proofs.Yaml.Building
import CaseGrid.Proofs.Yaml.Keys

/-
  Which nodes are built while the collections of a document are filled. Filling goes from one
  collection to the next and builds what is in it, so what is built is what can be reached from the
  root: from a mapping or a set over the pairs it has and those it takes over, from a sequence over
  its items, from a list of pairs over the pairs of its items. A mapping that only a merge key names
  is not reached, nor is an item of a list of pairs.

  The invariant is `Proceeds`. What filling does to a state is one of five: a node becomes a scalar
  (`Proceeds.setScalar`) or a collection that waits (`Proceeds.wait`), the collection being filled
  is resolved (`Proceeds.resolve`) and set (`Proceeds.refill`), and the next one is taken from those
  that wait (`Proceeds.next`). That one is there once only, so there are no more collections to fill
  than nodes (`Proceeds.length_le`), and what it holds is what was written unless a merge key names
  it.
-/

namespace CaseGrid.Yaml

/-! ## Kinds of collections -/

namespace Nodes

/-- The tag is the one of a mapping or of a set. -/
def IsTable (nodes : Nodes) (i : Nat) : Prop :=
  (nodes.node i).tag = Tag.map ∨ (nodes.node i).tag = Tag.set

/-- The tag is one of a list of pairs. -/
def IsPairList (nodes : Nodes) (i : Nat) : Prop :=
  (nodes.node i).tag = Tag.omap ∨ (nodes.node i).tag = Tag.pairs

/-- The items of a sequence, none of any other node. -/
def itemsOf (nodes : Nodes) (i : Nat) : List Nat :=
  match (nodes.node i).content with
  | .sequence items => items
  | _ => []

/--
The nodes that are reached from a root. What is in a sequence is reached; of a mapping or a set it
is what the pairs hold that it has or takes over, and of a list of pairs it is that of its items.
Neither a mapping that a merge key names nor an item of a list of pairs is itself reached in this
way.
-/
inductive Reached (nodes : Nodes) (root : Nat) : Nat → Prop
  | root : Reached nodes root root
  | item {i j : Nat} (h : Reached nodes root i) (htag : (nodes.node i).tag = Tag.seq)
    (hj : j ∈ nodes.itemsOf i) : Reached nodes root j
  | key {i : Nat} {p : Nat × Nat} (h : Reached nodes root i) (htag : nodes.IsTable i)
    (hp : nodes.Covers i p) : Reached nodes root p.1
  | value {i : Nat} {p : Nat × Nat} (h : Reached nodes root i) (htag : nodes.IsTable i)
    (hp : nodes.Covers i p) : Reached nodes root p.2
  | pairKey {i m : Nat} {p : Nat × Nat} (h : Reached nodes root i) (htag : nodes.IsPairList i)
    (hm : m ∈ nodes.itemsOf i) (hp : nodes.Covers m p) : Reached nodes root p.1
  | pairValue {i m : Nat} {p : Nat × Nat} (h : Reached nodes root i) (htag : nodes.IsPairList i)
    (hm : m ∈ nodes.itemsOf i) (hp : nodes.Covers m p) : Reached nodes root p.2

theorem IsTable.lt {nodes : Nodes} {i : Nat} (h : nodes.IsTable i) : i < nodes.size := by
  by_contra hge
  rw [IsTable, node_of_ge (Nat.le_of_not_lt hge)] at h
  exact absurd h (by decide)

/-- Past the last node there is an empty text, from which nothing is reached. -/
theorem Reached.eq_root {nodes : Nodes} {root i : Nat} (hroot : nodes.size ≤ root)
    (h : nodes.Reached root i) : i = root := by
  have htag : (nodes.node root).tag = Tag.str := by rw [node_of_ge hroot]
  have htable : ¬ nodes.IsTable root := by
    rintro (h | h) <;> exact absurd (htag.symm.trans h) (by decide)
  have hlist : ¬ nodes.IsPairList root := by
    rintro (h | h) <;> exact absurd (htag.symm.trans h) (by decide)
  induction h with
  | root => rfl
  | item _ hseq _ ih => exact absurd (htag.symm.trans (ih ▸ hseq)) (by decide)
  | key _ h _ ih => exact absurd (ih ▸ h) htable
  | value _ h _ ih => exact absurd (ih ▸ h) htable
  | pairKey _ h _ _ ih => exact absurd (ih ▸ h) hlist
  | pairValue _ h _ _ ih => exact absurd (ih ▸ h) hlist

end Nodes

/-! ## The invariant -/

/-- A node was built into something, if only into a collection to be filled. -/
def DataState.IsBuilt (s : DataState) (i : Nat) : Prop :=
  ∃ c, s.cell? i = some c

/-- The node has the tag of a collection. -/
def Nodes.IsCollection (nodes : Nodes) (i : Nat) : Prop :=
  nodes.IsTable i ∨ (nodes.node i).tag = Tag.seq ∨ nodes.IsPairList i

/--
What holds while collections are filled, where `done` are those filled so far and the one being
filled: each of them, and of those that wait, is there once and was built into a collection; there
are no other collections, every scalar is one that its node yields, and nothing is built that is not
reached.
-/
structure Proceeds (origin : Nodes) (root : Nat) (done : List Nat) (s : DataState) : Prop where
  merged : Merged origin s.nodes
  kept : Kept origin (· ∈ done) s.nodes
  size : s.cells.size = origin.size
  nodup : (done ++ s.waiting).Nodup
  kinds : ∀ i ∈ done ++ s.waiting, origin.IsCollection i
  pending : ∀ i ∈ done ++ s.waiting, ∃ c, s.cell? i = some c ∧ c.scalar? = none
  collected : ∀ i c, s.cell? i = some c → c.scalar? = none → i ∈ done ++ s.waiting
  yields : ∀ i a, s.cell? i = some (.scalar a) → origin.Yields i a
  reached : ∀ i, s.IsBuilt i → origin.Reached root i

section

variable {origin : Nodes} {root : Nat} {done : List Nat} {s s' : DataState} {i : Nat}

theorem Stays.isBuilt (h : Stays s s') (hi : s.IsBuilt i) : s'.IsBuilt i := by
  obtain ⟨c, hc⟩ := hi
  obtain ⟨c', hc', -⟩ := h i c hc
  exact ⟨c', hc'⟩

theorem DataState.IsBuilt.lt (h : s.IsBuilt i) : i < s.cells.size := by
  obtain ⟨c, hc⟩ := h
  by_contra hge
  rw [DataState.cell?, Array.getElem?_eq_none (Nat.le_of_not_lt hge)] at hc
  cases hc

/-- No collection is a merge key. -/
theorem ne_merge_of_isCollection (h : origin.IsCollection i) : (origin.node i).tag ≠ Tag.merge := by
  rcases h with (h | h) | h | (h | h) <;> exact h ▸ by decide

/-- No node that is built is a merge key. -/
theorem Proceeds.ne_merge (h : Proceeds origin root done s) (hi : s.IsBuilt i) :
    (origin.node i).tag ≠ Tag.merge := by
  obtain ⟨c, hc⟩ := hi
  cases hscalar : c.scalar? with
  | some a =>
    have ha : c = .scalar a := by
      cases c <;> simp_all [Cell.scalar?]
    rcases (h.yields i a (ha ▸ hc)).tag with htag | htag
    · exact htag ▸ by decide
    · intro hmerge
      exact absurd (hmerge ▸ htag) (by decide)
  | none => exact ne_merge_of_isCollection (h.kinds i (h.collected i c hc hscalar))

/-- What is built once a cell was set was built before, or is that. -/
theorem isBuilt_of_set {c : Option Cell} {j : Nat}
    (h : ({ s with cells := s.cells.setIfInBounds i c } : DataState).IsBuilt j) :
    j = i ∨ s.IsBuilt j := by
  obtain ⟨d, hd⟩ := h
  by_cases hji : j = i
  · exact .inl hji
  · unfold DataState.cell? at hd
    rw [Array.getElem?_setIfInBounds_ne (Ne.symm hji)] at hd
    exact .inr ⟨d, hd⟩

/-- A node is built into a scalar that it yields. -/
theorem Proceeds.setScalar (h : Proceeds origin root done s) {a : Scalar} (hnone : s.cell? i = none)
    (ha : origin.Yields i a) (hreached : origin.Reached root i) :
    Proceeds origin root done { s with cells := s.cells.setIfInBounds i (some (.scalar a)) } where
  merged := h.merged
  kept := h.kept
  size := by rw [Array.size_setIfInBounds, h.size]
  nodup := h.nodup
  kinds := h.kinds
  pending j hj := by
    obtain ⟨c, hc, hcollection⟩ := h.pending j hj
    have hstays : Stays s { s with cells := s.cells.setIfInBounds i (some (.scalar a)) } :=
      stays_set fun c₀ hc₀ => by cases hnone.symm.trans hc₀
    obtain ⟨c', hc', heq⟩ := hstays j c hc
    exact ⟨c', hc', heq.trans hcollection⟩
  collected j c hc hcollection := by
    rw [cell?_set] at hc
    split at hc
    · cases hc
      cases hcollection
    · exact h.collected j c hc hcollection
  yields j b hb := by
    rw [cell?_set] at hb
    split at hb
    · rename_i hij
      cases hb
      exact hij.1 ▸ ha
    · exact h.yields j b hb
  reached j hj := by
    rcases isBuilt_of_set hj with rfl | hj
    · exact hreached
    · exact h.reached j hj

/-- A node is built into a collection that waits to be filled. -/
theorem Proceeds.wait (h : Proceeds origin root done s) {c : Cell} (hnone : s.cell? i = none)
    (hi : i < origin.size) (hcollection : c.scalar? = none) (hkind : origin.IsCollection i)
    (hreached : origin.Reached root i) :
    Proceeds origin root done
      { s with cells := s.cells.setIfInBounds i (some c), waiting := s.waiting ++ [i] } := by
  have hcell (j : Nat) :
      ({ s with cells := s.cells.setIfInBounds i (some c), waiting := s.waiting ++ [i] } :
        DataState).cell? j = if i = j ∧ i < s.cells.size then some c else s.cell? j := cell?_set
  have hnew : i ∉ done ++ s.waiting := by
    intro hmem
    obtain ⟨c₀, hc₀, -⟩ := h.pending i hmem
    rw [hnone] at hc₀
    cases hc₀
  refine ⟨h.merged, h.kept, by rw [Array.size_setIfInBounds, h.size], ?_, fun j hj => ?_,
    fun j hj => ?_, fun j d hd hdcollection => ?_, fun j a ha => ?_, fun j hj => ?_⟩
  · rw [← List.append_assoc]
    refine List.nodup_append.mpr ⟨h.nodup, List.pairwise_singleton _ i, fun a ha b hb heq => ?_⟩
    obtain rfl := List.mem_singleton.mp hb
    exact hnew (heq ▸ ha)
  · rw [← List.append_assoc] at hj
    rcases List.mem_append.mp hj with hj | hj
    · exact h.kinds j hj
    · exact List.mem_singleton.mp hj ▸ hkind
  · rw [hcell]
    rw [← List.append_assoc] at hj
    rcases List.mem_append.mp hj with hj | hj
    · have hne : ¬ (i = j ∧ i < s.cells.size) := fun hij => hnew (hij.1 ▸ hj)
      rw [if_neg hne]
      exact h.pending j hj
    · obtain rfl := List.mem_singleton.mp hj
      rw [if_pos ⟨rfl, h.size.symm ▸ hi⟩]
      exact ⟨c, rfl, hcollection⟩
  · rw [← List.append_assoc]
    rw [hcell] at hd
    split at hd
    · rename_i hij
      exact List.mem_append_right _ (hij.1 ▸ List.mem_singleton_self i)
    · exact List.mem_append_left _ (h.collected j d hd hdcollection)
  · rw [hcell] at ha
    split at ha
    · cases ha
      cases hcollection
    · exact h.yields j a ha
  · rcases isBuilt_of_set hj with rfl | hj
    · exact hreached
    · exact h.reached j hj

/-- A mapping that is being filled is resolved. -/
theorem Proceeds.resolve (h : Proceeds origin root done s) (hi : i ∈ done) {nodes : Nodes}
    (hnodes : Merge.resolve s.nodes i = .ok nodes) :
    Proceeds origin root done { s with nodes := nodes } :=
  ⟨h.merged.resolve hnodes, h.kept.resolve hi hnodes, h.size, h.nodup, h.kinds, h.pending,
    h.collected, h.yields, h.reached⟩

/-- A collection is filled. -/
theorem Proceeds.refill (h : Proceeds origin root done s) {c : Cell} (hi : i ∈ done)
    (hcollection : c.scalar? = none) :
    Proceeds origin root done { s with cells := s.cells.setIfInBounds i (some c) } ∧
      Stays s { s with cells := s.cells.setIfInBounds i (some c) } := by
  have hstays : Stays s { s with cells := s.cells.setIfInBounds i (some c) } := by
    refine stays_set fun c₀ hc₀ => ?_
    obtain ⟨c₁, hc₁, hnone⟩ := h.pending i (List.mem_append_left _ hi)
    cases hc₀.symm.trans hc₁
    rw [hcollection, hnone]
  refine ⟨⟨h.merged, h.kept, by rw [Array.size_setIfInBounds, h.size], h.nodup, h.kinds,
    fun j hj => ?_, fun j d hd hdcollection => ?_, fun j a ha => ?_, fun j hj => ?_⟩, hstays⟩
  · obtain ⟨c₀, hc₀, hnone⟩ := h.pending j hj
    obtain ⟨c₁, hc₁, heq⟩ := hstays j c₀ hc₀
    exact ⟨c₁, hc₁, heq.trans hnone⟩
  · rw [cell?_set] at hd
    split at hd
    · rename_i hij
      exact List.mem_append_left _ (hij.1 ▸ hi)
    · exact h.collected j d hd hdcollection
  · rw [cell?_set] at ha
    split at ha
    · cases ha
      cases hcollection
    · exact h.yields j a ha
  · rcases isBuilt_of_set hj with rfl | hj
    · obtain ⟨c₁, hc₁, -⟩ := h.pending j (List.mem_append_left _ hi)
      exact h.reached j ⟨c₁, hc₁⟩
    · exact h.reached j hj

theorem Proceeds.reached_of_done (h : Proceeds origin root done s) (hi : i ∈ done) :
    origin.Reached root i := by
  obtain ⟨c, hc, -⟩ := h.pending i (List.mem_append_left _ hi)
  exact h.reached i ⟨c, hc⟩

/-- No more collections are filled than there are nodes, each of them once. -/
theorem Proceeds.length_le (h : Proceeds origin root done s) : done.length ≤ origin.size := by
  have hsub : done ⊆ List.range origin.size := by
    intro i hi
    obtain ⟨c, hc, -⟩ := h.pending i (List.mem_append_left _ hi)
    exact List.mem_range.mpr (h.size ▸ DataState.IsBuilt.lt ⟨c, hc⟩)
  have hle := (List.subperm_of_subset (List.nodup_append.mp h.nodup).1 hsub).length_le
  rwa [List.length_range] at hle

/-- The first of the collections that wait is the one to be filled next. -/
theorem Proceeds.next (h : Proceeds origin root done s) {rest : List Nat}
    (hwaiting : s.waiting = i :: rest) :
    Proceeds origin root (done ++ [i]) { s with waiting := rest } ∧
      (Merge.pairsOf s.nodes i ≠ Merge.pairsOf origin i → origin.Named i) := by
  have hsplit : done ++ [i] ++ rest = done ++ s.waiting := by
    rw [hwaiting, List.append_assoc, List.singleton_append]
  refine ⟨⟨h.merged, h.kept.mono fun j hj => List.mem_append_left _ hj, h.size, ?_, fun j hj => ?_,
    fun j hj => ?_, fun j c hc hcollection => ?_, h.yields, h.reached⟩, fun hchanged => ?_⟩
  · rw [hsplit]
    exact h.nodup
  · exact h.kinds j (hsplit ▸ hj)
  · exact h.pending j (hsplit ▸ hj)
  · exact hsplit ▸ h.collected j c hc hcollection
  · refine (h.kept.changed i hchanged).resolve_left fun hi => ?_
    have hi' : i ∈ s.waiting := hwaiting ▸ List.mem_cons_self
    exact (List.nodup_append.mp h.nodup).2.2 i hi i hi' rfl

end

end CaseGrid.Yaml
