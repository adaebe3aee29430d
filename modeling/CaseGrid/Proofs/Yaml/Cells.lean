import CaseGrid.Proofs.Yaml.Merging
import CaseGrid.Yaml.Data

/-
  What the cells of a document hold, in terms of the nodes they were built from. What a node was
  built into stays what it is (`Stays`): a scalar the same scalar, a collection a collection, which
  is empty until it is filled.

  A mapping without merge keys is filled with one entry for each of its pairs, assigned one after
  the other (`Describes`), its keys being scalars of which no two of one kind are alike. Where all
  nodes are regular, every scalar can be written. Both are part of the invariant of the builder
  (`Sound`), which the module on building shows to be kept.
-/

namespace CaseGrid.Yaml

open CaseGrid.Text (Points)

/-! ## Regular nodes -/

/-- The tags of scalars. -/
def Tag.scalars : List String :=
  [Tag.str, Tag.null, Tag.bool, Tag.int, Tag.float, Tag.timestamp, Tag.binary]

/-- A text that the tag of its node can read; collections are read from the empty text only. -/
structure Readable (i : Nat) (tag : String) (text : Points) : Prop where
  bool : tag = Tag.bool → ∃ b, Tagged.readBool text = .ok b
  int : tag = Tag.int → ∃ n, Tagged.readInteger text = .ok n ∧ Number.isTooLong n = false
  float : tag = Tag.float → ∃ x, Tagged.readDouble (Builder.markOf i) text = .ok x
  timestamp : tag = Tag.timestamp → ∃ a, Tagged.readTimestamp text = .ok a
  collection : tag = Tag.map ∨ tag = Tag.set → text = []

/-- Whether reading ends with a result. -/
instance decidableReads {α : Type} (x : Except Trouble α) : Decidable (∃ a, x = .ok a) :=
  match x with
  | .ok a => .isTrue ⟨a, rfl⟩
  | .error _ => .isFalse nofun

instance (text : Points) :
    Decidable (∃ n, Tagged.readInteger text = .ok n ∧ Number.isTooLong n = false) :=
  match Tagged.readInteger text with
  | .ok n =>
    decidable_of_iff (Number.isTooLong n = false)
      ⟨fun h => ⟨n, rfl, h⟩, fun ⟨_, hn, h⟩ => Except.ok.inj hn ▸ h⟩
  | .error _ => .isFalse fun ⟨_, h, _⟩ => nomatch h

instance (i : Nat) (tag : String) (text : Points) : Decidable (Readable i tag text) :=
  decidable_of_iff
    ((tag = Tag.bool → ∃ b, Tagged.readBool text = .ok b) ∧
      (tag = Tag.int → ∃ n, Tagged.readInteger text = .ok n ∧ Number.isTooLong n = false) ∧
      (tag = Tag.float → ∃ x, Tagged.readDouble (Builder.markOf i) text = .ok x) ∧
      (tag = Tag.timestamp → ∃ a, Tagged.readTimestamp text = .ok a) ∧
      (tag = Tag.map ∨ tag = Tag.set → text = []))
    ⟨fun ⟨hbool, hint, hfloat, htime, hcollection⟩ => ⟨hbool, hint, hfloat, htime, hcollection⟩,
      fun h => ⟨h.bool, h.int, h.float, h.timestamp, h.collection⟩⟩

/-- A node whose tag goes with what it holds: a text that the tag can read, no items where pairs
are wanted, and no scalar that stands for a mapping with a default value. -/
def Node.Regular (i : Nat) (n : Node) : Prop :=
  match n.content with
  | .scalar text => Readable i n.tag text
  | .sequence items => n.tag = Tag.map ∨ n.tag = Tag.set → items = []
  | .mapping _ => n.tag ≠ Tag.default ∧ n.tag ∉ Tag.scalars

instance (i : Nat) (n : Node) : Decidable (n.Regular i) :=
  match h : n.content with
  | .scalar text => decidable_of_iff (Readable i n.tag text) (by rw [Node.Regular, h])
  | .sequence items =>
    decidable_of_iff (n.tag = Tag.map ∨ n.tag = Tag.set → items = []) (by rw [Node.Regular, h])
  | .mapping _ =>
    decidable_of_iff (n.tag ≠ Tag.default ∧ n.tag ∉ Tag.scalars) (by rw [Node.Regular, h])

/-- Every node is regular. -/
def Nodes.Regular (nodes : Nodes) : Prop :=
  ∀ i, (nodes.node i).Regular i

theorem regular_iff {nodes : Nodes} :
    nodes.Regular ↔ ∀ i, i < nodes.size → (nodes.node i).Regular i := by
  refine ⟨fun h i _ => h i, fun h i => ?_⟩
  by_cases hi : i < nodes.size
  · exact h i hi
  · rw [Nodes.node_of_ge (Nat.le_of_not_lt hi)]
    constructor <;> exact fun htag => absurd htag (by decide)

instance (nodes : Nodes) : Decidable nodes.Regular :=
  decidable_of_iff _ regular_iff.symm

/-! ## What cells hold -/

/-- The scalar that a cell is. -/
def Cell.scalar? : Cell → Option Scalar
  | .scalar a => some a
  | _ => none

/-- What a node was built into so far. -/
def DataState.cell? (s : DataState) (i : Nat) : Option Cell :=
  (s.cells[i]?).join

/-- What is built stays built: a scalar the same one, a collection a collection. -/
def Stays (s s' : DataState) : Prop :=
  ∀ i c, s.cell? i = some c → ∃ c', s'.cell? i = some c' ∧ c'.scalar? = c.scalar?

/-- Entries to which pairs of keys and values were assigned one after the other. -/
def assignAll (entries : List (Scalar × Nat)) (keys : List Scalar) (values : List Nat) :
    List (Scalar × Nat) :=
  (keys.zip values).foldl (fun es e => Builder.assign es e.1 e.2) entries

/-- No two of some keys of one kind are alike. -/
def KeysApart (keys : List Scalar) : Prop :=
  keys.Pairwise fun a b => Builder.repeats a b = false

/-- The keys of pairs are these scalars. -/
def KeysAre (s : DataState) (pairs : List (Nat × Nat)) (keys : List Scalar) : Prop :=
  List.Forall₂ (fun p a => s.cell? p.1 = some (.scalar a)) pairs keys

/-- Entries made of pairs: the keys are scalars, apart from each other, and each was assigned the
value beside it. -/
def Describes (s : DataState) (pairs : List (Nat × Nat)) (entries : List (Scalar × Nat)) : Prop :=
  ∃ keys, KeysAre s pairs keys ∧ KeysApart keys ∧ entries = assignAll [] keys (pairs.map (·.2))

/-- What a cell holds, in terms of the node that was built into it. -/
def Built (origin : Nodes) (s : DataState) (i : Nat) : Cell → Prop
  | .scalar a => origin.Regular → a.isTooLong = false
  | .list items => items = [] ∨ ∃ js, (origin.node i).content = .sequence js
  | .pairs items => items = [] ∨ ∃ js, (origin.node i).content = .sequence js
  | .set members => origin.Regular → ∀ a ∈ members, a.isTooLong = false
  | .map entries =>
    (origin.Regular → ∀ e ∈ entries, e.1.isTooLong = false) ∧
    (entries = [] ∨ ∀ pairs, (origin.node i).content = .mapping pairs → ¬ origin.HasMerge i →
      Describes s pairs entries)

/-- The invariant of the builder, for the nodes that it was given. -/
structure Sound (origin : Nodes) (s : DataState) : Prop where
  merged : Merged origin s.nodes
  size : s.cells.size = origin.size
  waiting : ∀ i ∈ s.waiting, ∃ c, s.cell? i = some c ∧ c.scalar? = none
  built : ∀ i c, s.cell? i = some c → Built origin s i c

section Cells

variable {origin : Nodes} {s s' s'' : DataState}

theorem Stays.refl (s : DataState) : Stays s s :=
  fun _ c hc => ⟨c, hc, rfl⟩

theorem Stays.trans (h : Stays s s') (h' : Stays s' s'') : Stays s s'' := by
  intro i c hc
  obtain ⟨c', hc', heq⟩ := h i c hc
  obtain ⟨c'', hc'', heq'⟩ := h' i c' hc'
  exact ⟨c'', hc'', heq'.trans heq⟩

theorem Stays.of_cells (h : s'.cells = s.cells) : Stays s s' := by
  intro i c hc
  refine ⟨c, ?_, rfl⟩
  rw [DataState.cell?, h]
  exact hc

theorem Stays.scalar (h : Stays s s') {i : Nat} {a : Scalar}
    (ha : s.cell? i = some (.scalar a)) : s'.cell? i = some (.scalar a) := by
  obtain ⟨c', hc', heq⟩ := h i _ ha
  cases c' <;> simp_all [Cell.scalar?]

/-- What is a scalar now and was built before was that scalar before. -/
theorem Stays.scalar_back (h : Stays s s') {i : Nat} {c : Cell} {a : Scalar}
    (hc : s.cell? i = some c) (ha : s'.cell? i = some (.scalar a)) : c = .scalar a := by
  obtain ⟨c', hc', heq⟩ := h i c hc
  rw [ha] at hc'
  cases hc'
  cases c <;> simp_all [Cell.scalar?]

theorem KeysAre.mono {pairs : List (Nat × Nat)} {keys : List Scalar} (hstays : Stays s s')
    (h : KeysAre s pairs keys) : KeysAre s' pairs keys :=
  h.imp fun _ _ ha => hstays.scalar ha

theorem KeysAre.exists_of_mem {pairs : List (Nat × Nat)} {keys : List Scalar}
    (h : KeysAre s pairs keys) {a : Scalar} (ha : a ∈ keys) :
    ∃ p ∈ pairs, s.cell? p.1 = some (.scalar a) := by
  induction h with
  | nil => cases ha
  | @cons p b ps bs hb _ ih =>
    rcases List.mem_cons.mp ha with rfl | ha
    · exact ⟨p, List.mem_cons_self, hb⟩
    · obtain ⟨q, hq, hqa⟩ := ih ha
      exact ⟨q, List.mem_cons_of_mem p hq, hqa⟩

theorem Built.mono {i : Nat} {c : Cell} (hstays : Stays s s') (h : Built origin s i c) :
    Built origin s' i c := by
  cases c with
  | scalar a => exact h
  | list items => exact h
  | pairs items => exact h
  | set members => exact h
  | map entries =>
    obtain ⟨hshort, hentries⟩ := h
    refine ⟨hshort, hentries.imp_right fun hdescribes pairs hpairs hmerge => ?_⟩
    obtain ⟨keys, hkeys, hapart, heq⟩ := hdescribes pairs hpairs hmerge
    exact ⟨keys, hkeys.mono hstays, hapart, heq⟩

theorem cell?_set {i j : Nat} {c : Cell} :
    ({ s with cells := s.cells.setIfInBounds i (some c) } : DataState).cell? j =
      if i = j ∧ i < s.cells.size then some c else s.cell? j := by
  unfold DataState.cell?
  dsimp only
  rw [Array.getElem?_setIfInBounds]
  by_cases hij : i = j
  · subst hij
    by_cases hi : i < s.cells.size
    · simp [hi]
    · simp [hi]
  · simp [hij]

/-- What is built stays where a cell is set to one that is a scalar or a collection as what was
there. -/
theorem stays_set {i : Nat} {c : Cell}
    (hkeep : ∀ c₀, s.cell? i = some c₀ → c.scalar? = c₀.scalar?) :
    Stays s { s with cells := s.cells.setIfInBounds i (some c) } := by
  intro j c₀ hc₀
  rw [cell?_set]
  split
  · rename_i hij
    exact ⟨c, rfl, hkeep c₀ (hij.1 ▸ hc₀)⟩
  · exact ⟨c₀, hc₀, rfl⟩

/-- A cell may be set to one that is a scalar or a collection as what was there. -/
theorem Sound.set (h : Sound origin s) {i : Nat} {c : Cell}
    (hkeep : ∀ c₀, s.cell? i = some c₀ → c.scalar? = c₀.scalar?) (hc : Built origin s i c) :
    Sound origin { s with cells := s.cells.setIfInBounds i (some c) } ∧
      Stays s { s with cells := s.cells.setIfInBounds i (some c) } := by
  have hstays := stays_set hkeep
  refine ⟨⟨h.merged, ?_, fun j hj => ?_, fun j d hd => ?_⟩, hstays⟩
  · dsimp only
    rw [Array.size_setIfInBounds, h.size]
  · obtain ⟨c₀, hc₀, hnone⟩ := h.waiting j hj
    obtain ⟨c', hc', heq⟩ := hstays j c₀ hc₀
    exact ⟨c', hc', heq.trans hnone⟩
  · rw [cell?_set] at hd
    split at hd
    · rename_i hij
      cases hd
      exact hij.1 ▸ hc.mono hstays
    · exact (h.built j d hd).mono hstays

end Cells

end CaseGrid.Yaml
