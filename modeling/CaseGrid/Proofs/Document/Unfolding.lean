import CaseGrid.Document.Load
import CaseGrid.Proofs.Except
import Mathlib.Data.Finset.Card
import Mathlib.Data.Finset.Range
import Mathlib.Logic.Relation

/-
  What the unfolding of a piece of data shows. A piece that is met inside itself is shown by a sign,
  and the depth is bounded by the number of cells, yet nothing that can be reached is missing: a way
  from one piece to another that goes in a circle can be cut short, and a way without a circle is
  not longer than the bound.

  Proved: the unfolding of a piece has no number with too many digits exactly if no piece that can be
  reached from it has one (`short_unfold_iff`), so that what is inside a piece that can be shown can
  be shown by itself (`short_of_within`).
-/

namespace CaseGrid

open Relation (ReflTransGen)

/-! ## Pieces inside others -/

/-- The pieces of a shape. -/
def Shape.parts {α : Type} : Shape α → List α
  | .list items => items
  | .tuple items => items
  | .map entries => entries.map (·.2)
  | _ => []

/-- Whether a shape shows a number with too many digits apart from its pieces. -/
def Shape.showsLong {α : Type} : Shape α → Bool
  | .scalar s => s.isTooLong
  | .map entries => entries.any fun e => e.1.isTooLong
  | .set members => members.any Value.isTooLong
  | _ => false

theorem Shape.showsLong_map_iff {α : Type} {entries : List (Value × α)} :
    (Shape.map entries).showsLong = false ↔ ∀ e ∈ entries, e.1.isTooLong = false := by
  simp [Shape.showsLong]

namespace Source

variable {α : Type} {source : Source α} {a b : α}

/-- A piece can be reached from another one, going from pieces to their parts. -/
def Within (source : Source α) (a b : α) : Prop :=
  ReflTransGen (fun x y => y ∈ (source.shape x).parts) a b

theorem within_item {parts : List α} (h : source.shape a = .list parts) (hb : b ∈ parts) :
    source.Within a b :=
  .single (by rw [h]; exact hb)

theorem within_entry {entries : List (Value × α)} (h : source.shape a = .map entries)
    {e : Value × α} (he : e ∈ entries) : source.Within a e.2 :=
  .single (by rw [h]; exact List.mem_map_of_mem he)

theorem within_field {entries : List (Value × α)} {key : String}
    (h : source.shape a = .map entries) (hb : Schema.field? entries key = some b) :
    source.Within a b := by
  obtain ⟨e, he, rfl⟩ := Option.map_eq_some_iff.mp hb
  exact within_entry h (List.mem_of_find?_eq_some he)

end Source

namespace Value

theorem someTooLong_eq_false_iff {xs : List Value} :
    someTooLong xs = false ↔ ∀ x ∈ xs, x.isTooLong = false := by
  induction xs with
  | nil => simp [someTooLong]
  | cons x xs ih => rw [someTooLong, Bool.or_eq_false_iff, ih, List.forall_mem_cons]

theorem someEntryTooLong_eq_false_iff {es : List (Value × Value)} :
    someEntryTooLong es = false ↔ ∀ e ∈ es, e.1.isTooLong = false ∧ e.2.isTooLong = false := by
  induction es with
  | nil => simp [someEntryTooLong]
  | cons e es ih =>
    rw [someEntryTooLong, Bool.or_eq_false_iff, Bool.or_eq_false_iff, ih, List.forall_mem_cons]

/-- A value has no long number if neither its shape shows one nor any of its parts has one. -/
theorem short_iff {v : Value} : v.isTooLong = false ↔
    v.shape.showsLong = false ∧ ∀ w ∈ v.shape.parts, w.isTooLong = false := by
  cases v with
  | scalar s => simp [isTooLong, shape, Shape.showsLong, Shape.parts]
  | list xs => simp [isTooLong, shape, Shape.showsLong, Shape.parts, someTooLong_eq_false_iff]
  | tuple xs => simp [isTooLong, shape, Shape.showsLong, Shape.parts, someTooLong_eq_false_iff]
  | map es =>
    rw [shape, isTooLong, someEntryTooLong_eq_false_iff, Shape.showsLong_map_iff, Shape.parts,
      List.forall_mem_map, forall₂_and]
  | set xs => simp [isTooLong, shape, Shape.showsLong, Shape.parts, someTooLong_eq_false_iff]
  | again c => simp [isTooLong, shape, Shape.showsLong, Shape.parts]

end Value

namespace Yaml.Data

variable {d : Data} {p q : Piece} {fuel : Nat} {inside : List Piece}

/-! ## One step of the unfolding -/

theorem isTooLong_again (s : Shape Piece) : (again s).isTooLong = false := by
  unfold again
  split <;> rfl

/-- The unfolding of a shape whose parts were unfolded. -/
theorem short_shape_iff {s : Shape Piece} {part : Piece → Value} :
    (match s with
      | .scalar a => Value.scalar a
      | .list items => .list (items.map part)
      | .tuple items => .tuple (items.map part)
      | .map entries => .map (entries.map fun e => (e.1, part e.2))
      | .set members => .set members
      | .again c => .again c : Value).isTooLong = false ↔
      s.showsLong = false ∧ ∀ x ∈ s.parts, (part x).isTooLong = false := by
  rw [Value.short_iff]
  cases s with
  | map entries =>
    rw [Value.shape, Shape.showsLong_map_iff, Shape.showsLong_map_iff]
    simp only [Shape.parts, List.forall_mem_map]
  | _ => simp [Value.shape, Shape.showsLong, Shape.parts]

theorem short_unfoldFrom_succ_iff (hp : p ∉ inside) :
    (d.unfoldFrom (fuel + 1) inside p).isTooLong = false ↔ (d.shape p).showsLong = false ∧
      ∀ x ∈ (d.shape p).parts, (d.unfoldFrom fuel (p :: inside) x).isTooLong = false := by
  have hfree : (isContainer (d.shape p) && inside.contains p) = false := by simp [hp]
  rw [unfoldFrom, hfree]
  exact short_shape_iff

/-- What can be reached from a piece is all that its unfolding shows. -/
theorem short_unfoldFrom (h : ∀ x, d.source.Within p x → (d.shape x).showsLong = false) :
    (d.unfoldFrom fuel inside p).isTooLong = false := by
  -- The pieces around one grow with the depth, so they vary in the induction.
  induction fuel generalizing inside p with
  | zero => exact isTooLong_again _
  | succ fuel ih =>
    rw [unfoldFrom]
    dsimp only
    split
    · exact isTooLong_again _
    · refine short_shape_iff.mpr ⟨h p .refl, fun x hx => ih fun y hy => h y ?_⟩
      exact .head hx hy

/-! ## Ways that go in no circle -/

/-- A step to a part that is none of some pieces. -/
def Enters (d : Data) (inside : List Piece) (x y : Piece) : Prop :=
  y ∈ (d.shape x).parts ∧ y ∉ inside

/-- A way can be gone from the last time that it is at its beginning. -/
theorem exists_part_of_enters (h : ReflTransGen (d.Enters inside) p q) :
    p = q ∨ ∃ x ∈ (d.shape p).parts, x ∉ p :: inside ∧
      ReflTransGen (d.Enters (p :: inside)) x q := by
  induction h with
  | refl => exact .inl rfl
  | @tail b c hway hstep ih =>
    obtain ⟨hpart, hnew⟩ := hstep
    by_cases hback : p = c
    · exact .inl hback
    · have hother : c ∉ p :: inside := by
        intro hmem
        rcases List.mem_cons.mp hmem with heq | hmem
        · exact hback heq.symm
        · exact hnew hmem
      rcases ih with rfl | ⟨x, hx, hfree, hrest⟩
      · exact .inr ⟨c, hpart, hother, .refl⟩
      · exact .inr ⟨x, hx, hfree, hrest.tail ⟨hpart, hother⟩⟩

/-- The nodes that are none of some pieces. -/
def room (d : Data) (inside : List Piece) : Finset Nat :=
  (Finset.range d.cells.size).filter fun i => Piece.node i ∉ inside

theorem room_subset (d : Data) (inside : List Piece) (p : Piece) :
    d.room (p :: inside) ⊆ d.room inside := by
  intro i hi
  rw [room, Finset.mem_filter] at hi ⊢
  exact ⟨hi.1, fun hmem => hi.2 (.tail p hmem)⟩

/-- With a node of its own cell around it there is less room. -/
theorem card_room_lt {i : Nat} (hi : i < d.cells.size) (hnew : Piece.node i ∉ inside) :
    (d.room (.node i :: inside)).card < (d.room inside).card := by
  refine Finset.card_lt_card (Finset.ssubset_iff_of_subset (d.room_subset _ _) |>.mpr ⟨i, ?_, ?_⟩)
  · rw [room, Finset.mem_filter, Finset.mem_range]
    exact ⟨hi, hnew⟩
  · rw [room, Finset.mem_filter]
    exact fun h => h.2 List.mem_cons_self

/-- How deep the unfolding of a piece inside others can be. -/
def depthBound (d : Data) (inside : List Piece) : Piece → Nat
  | .node _ => 2 * (d.room inside).card + 1
  | .pair _ _ _ _ => 2 * (d.room inside).card + 2

theorem lt_size_of_part {i : Nat} (h : q ∈ (d.shape (.node i)).parts) : i < d.cells.size := by
  by_contra hnone
  have hcell : (d.cells[i]?).join = none := by
    rw [Array.getElem?_eq_none (by omega)]
    rfl
  rw [shape, hcell] at h
  exact List.not_mem_nil h

/-- The parts of a piece need less depth: there is less room, or the pair is behind. -/
theorem depthBound_lt (hq : q ∈ (d.shape p).parts) (hp : p ∉ inside) :
    d.depthBound (p :: inside) q < d.depthBound inside p := by
  cases p with
  | node i =>
    have hroom := card_room_lt (lt_size_of_part hq) hp
    cases q with
    | node j => simp only [depthBound]; omega
    | pair _ _ _ _ => simp only [depthBound]; omega
  | pair owner position first second =>
    have hroom := Finset.card_le_card (d.room_subset inside (.pair owner position first second))
    obtain rfl | rfl : q = .node first ∨ q = .node second := by simpa [shape, Shape.parts] using hq
    · simp only [depthBound]; omega
    · simp only [depthBound]; omega

/-- With enough depth the unfolding of a piece shows all that can be reached around nothing. -/
theorem showsLong_eq_false_of_enters (hway : ReflTransGen (d.Enters inside) p q) (hp : p ∉ inside)
    (hfuel : d.depthBound inside p ≤ fuel)
    (hshort : (d.unfoldFrom fuel inside p).isTooLong = false) :
    (d.shape q).showsLong = false := by
  induction fuel generalizing inside p with
  | zero => cases p <;> simp [depthBound] at hfuel
  | succ fuel ih =>
    rw [short_unfoldFrom_succ_iff hp] at hshort
    obtain ⟨htop, hparts⟩ := hshort
    rcases exists_part_of_enters hway with rfl | ⟨x, hx, hfree, hrest⟩
    · exact htop
    · have hbound := depthBound_lt hx hp
      exact ih hrest hfree (by omega) (hparts x hx)

/-! ## The whole unfolding -/

/-- The unfolding of a piece has no long number exactly if nothing that can be reached shows one. -/
theorem short_unfold_iff : (d.unfold p).isTooLong = false ↔
    ∀ x, d.source.Within p x → (d.shape x).showsLong = false := by
  constructor
  · intro hshort x hx
    have hway : ReflTransGen (d.Enters []) p x :=
      ReflTransGen.mono (fun y z hz => ⟨hz, List.not_mem_nil⟩) p x hx
    have hroom : (d.room []).card ≤ d.cells.size :=
      (Finset.card_filter_le _ _).trans (Finset.card_range _).le
    refine showsLong_eq_false_of_enters hway List.not_mem_nil ?_ hshort
    cases p <;> simp only [depthBound] <;> omega
  · exact short_unfoldFrom

/-- What is inside a piece that has no long number has none. -/
theorem short_of_within (h : d.source.Within p q) (hp : (d.unfold p).isTooLong = false) :
    (d.unfold q).isTooLong = false :=
  short_unfold_iff.mpr fun x hx => short_unfold_iff.mp hp x (h.trans hx)

theorem unfold_scalar {s : Scalar} (h : d.shape p = .scalar s) : d.unfold p = .scalar s := by
  rw [unfold, unfoldFrom, h]
  rfl

end Yaml.Data

end CaseGrid
