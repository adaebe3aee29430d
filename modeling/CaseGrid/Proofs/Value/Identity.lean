import CaseGrid.Value.Items
import Mathlib.Data.Rat.Lemmas
import Mathlib.Tactic.FieldSimp

/-
  Values that can be keys, and when two of them are one key. A key has an identity: a number of any
  kind its value, what is no number its mark, a time its instant, a tuple the identities of its
  items. Two keys are alike just if they have one identity, so that to be alike goes both ways and
  from one key to the next.

  Proved: `alike_iff`, by induction on the items of a tuple, and from it `alike_symm` and
  `alike_trans`.
-/

namespace CaseGrid

open CaseGrid.Number (Binary64)

/-- What a number is known by. -/
inductive Numeral where
  | finite (q : ℚ)
  | infinite (negative : Bool)
  | none (mark : Nat)

/-- What a whole number is known by. -/
def Numeral.whole (n : Int) : Numeral :=
  .finite n

theorem Numeral.whole_inj {m n : Int} : whole m = whole n ↔ m = n := by
  simp [whole]

/-- What a scalar is known by. -/
inductive Scalar.Identity where
  | null
  | number (n : Numeral)
  | text (s : String)
  | broken (b : Text.Broken)
  | bytes (bs : List UInt8)
  | date (d : Date)
  | instant (hasOffset : Bool) (micros : Int)

/-- What a key is known by. -/
inductive Value.Identity where
  | scalar (i : Scalar.Identity)
  | tuple (parts : List Identity)
  /-- A tuple that contains itself, met again. -/
  | again

namespace Number.Binary64

/-- The value of a finite double. -/
def ratio (negative : Bool) (m : Nat) (e : Int) : ℚ :=
  ((value negative m e).1 : ℚ) / ((value negative m e).2 : ℚ)

/-- What a double is known by. -/
def numeral : Binary64 → Numeral
  | .nan mark => .none mark
  | .infinite negative => .infinite negative
  | .finite negative m e => .finite (ratio negative m e)

theorem value_ne_zero (negative : Bool) (m : Nat) (e : Int) :
    ((value negative m e).2 : ℚ) ≠ 0 := by
  have hpos : 0 < (value negative m e).2 := by
    simp only [value, magnitude]
    split
    · exact Nat.pow_pos (by decide)
    · exact Nat.one_pos
  exact_mod_cast hpos.ne'

theorem same_finite_iff {a b : Bool} {m n : Nat} {e f : Int} :
    (finite a m e).same (.finite b n f) = true ↔ ratio a m e = ratio b n f := by
  rw [ratio, ratio, div_eq_div_iff (value_ne_zero a m e) (value_ne_zero b n f)]
  simp only [same, beq_iff_eq]
  exact_mod_cast Iff.rfl

theorem sameInt_finite_iff {a : Bool} {m : Nat} {e : Int} {n : Int} :
    (finite a m e).sameInt n = true ↔ ratio a m e = n := by
  rw [ratio, div_eq_iff (value_ne_zero a m e)]
  simp only [sameInt, beq_iff_eq]
  exact_mod_cast Iff.rfl

theorem alike_iff {x y : Binary64} : x.alike y = true ↔ x.numeral = y.numeral := by
  cases x <;> cases y <;> simp [alike, numeral, same_finite_iff] <;> simp [same]

theorem sameInt_iff {x : Binary64} {n : Int} : x.sameInt n = true ↔ x.numeral = .whole n := by
  cases x with
  | finite a m e => rw [sameInt_finite_iff, numeral, Numeral.whole, Numeral.finite.injEq]
  | nan => simp [sameInt, numeral, Numeral.whole]
  | infinite => simp [sameInt, numeral, Numeral.whole]

end Number.Binary64

namespace Scalar

/-- What a scalar is known by. -/
def identity : Scalar → Identity
  | .null => .null
  | .bool b => .number (.whole (if b then 1 else 0))
  | .int n => .number (.whole n)
  | .float x => .number x.numeral
  | .text s => .text s
  | .broken b => .broken b
  | .bytes bs => .bytes bs
  | .date d => .date d
  | .timestamp t => .instant t.offset.isSome t.instant

/-- Two scalars are taken for one just if they are known by the same. -/
theorem alike_iff {s t : Scalar} : s.alike t = true ↔ s.identity = t.identity := by
  cases s <;> cases t <;>
    simp [alike, same, whole?, identity, Numeral.whole_inj, Binary64.alike_iff,
      Binary64.sameInt_iff, Timestamp.same] <;>
    exact eq_comm

end Scalar

namespace Value

mutual

/-- What a value is known by, if it can be a key. -/
def identity? : Value → Option Identity
  | .scalar s => some (.scalar s.identity)
  | .tuple xs => (identities? xs).map .tuple
  | .again c => if c = .tuple then some .again else none
  | _ => none

/-- What items are known by, if they can all be keys. -/
def identities? : List Value → Option (List Identity)
  | [] => some []
  | x :: xs => (identity? x).bind fun i => (identities? xs).map (i :: ·)

end

mutual

theorem isSome_identity? (v : Value) : v.identity?.isSome = v.hashable := by
  cases v with
  | scalar s => rfl
  | tuple xs => rw [identity?, hashable, Option.isSome_map, isSome_identities? xs]
  | again c => cases c <;> rfl
  | list | map | set => rfl

theorem isSome_identities? (xs : List Value) : (identities? xs).isSome = allHashable xs := by
  cases xs with
  | nil => rfl
  | cons x xs =>
    rw [identities?, allHashable, ← isSome_identity? x, ← isSome_identities? xs]
    cases x.identity? <;> simp

end

mutual

/-- A value is taken for a key just if it is known by the same. -/
theorem alike_iff (v : Value) {w : Value} (hw : w.hashable = true) :
    v.alike w = true ↔ v.identity? = w.identity? := by
  cases w with
  | scalar t => cases v <;> simp [alike, identity?, Scalar.alike_iff]
  | tuple ys =>
    rw [hashable] at hw
    obtain ⟨is, his⟩ := Option.isSome_iff_exists.mp ((isSome_identities? ys).trans hw)
    have hitems (xs : List Value) : alikeItems xs ys = true ↔ identities? xs = some is := by
      rw [alikeItems_iff xs hw, his]
    cases v <;> simp [alike, identity?, his, hitems]
  | again c =>
    obtain rfl : c = .tuple := by simpa [hashable] using hw
    cases v <;> simp [alike, identity?]
  | list | map | set => cases hw

theorem alikeItems_iff (xs : List Value) {ys : List Value} (hys : allHashable ys = true) :
    alikeItems xs ys = true ↔ identities? xs = identities? ys := by
  cases ys with
  | nil =>
    cases xs with
    | nil => simp [alikeItems]
    | cons x xs => simp [alikeItems, identities?, Option.bind_eq_some_iff]
  | cons y ys =>
    rw [allHashable, Bool.and_eq_true] at hys
    obtain ⟨j, hj⟩ := Option.isSome_iff_exists.mp ((isSome_identity? y).trans hys.1)
    obtain ⟨js, hjs⟩ := Option.isSome_iff_exists.mp ((isSome_identities? ys).trans hys.2)
    cases xs with
    | nil => simp [alikeItems, identities?, hj, hjs]
    | cons x xs =>
      have hx := alike_iff x hys.1
      have hxs := alikeItems_iff xs hys.2
      simp [alikeItems, identities?, hj, hjs, hx, hxs, Option.bind_eq_some_iff]

end

variable {u v w : Value}

theorem hashable_of_alike (h : v.alike w = true) (hw : w.hashable = true) :
    v.hashable = true := by
  rw [← isSome_identity?, (alike_iff _ hw).mp h, isSome_identity?, hw]

theorem alike_symm (h : v.alike w = true) (hw : w.hashable = true) : w.alike v = true :=
  (alike_iff _ (hashable_of_alike h hw)).mpr ((alike_iff _ hw).mp h).symm

theorem alike_trans (huv : u.alike v = true) (hvw : v.alike w = true) (hw : w.hashable = true) :
    u.alike w = true :=
  (alike_iff _ hw).mpr
    (((alike_iff _ (hashable_of_alike hvw hw)).mp huv).trans ((alike_iff _ hw).mp hvw))

/-- What is alike to one of two alike keys is alike to the other. -/
theorem alike_congr_right (h : v.alike w = true) (hw : w.hashable = true) :
    u.alike v = u.alike w := by
  rw [Bool.eq_iff_iff, alike_iff u (hashable_of_alike h hw), alike_iff u hw,
    (alike_iff _ hw).mp h]

/-- Two alike keys are alike to the same keys. -/
theorem alike_congr_left (h : u.alike v = true) (hv : v.hashable = true)
    (hw : w.hashable = true) : u.alike w = v.alike w := by
  rw [Bool.eq_iff_iff, alike_iff u hw, alike_iff v hw, (alike_iff _ hv).mp h]

/-- A key that is unlike one of two alike keys is unlike the other. -/
theorem unlike_of_alike (huv : u.alike v = true) (huw : u.alike w = false)
    (hv : v.hashable = true) (hw : w.hashable = true) : w.alike v = false := by
  by_contra h
  have hvw : v.alike w = true := alike_symm (by simpa using h) hv
  rw [alike_trans huv hvw hw] at huw
  cases huw

theorem key_eq_ok_iff : v.key = .ok w ↔ v.hashable = true ∧ w = v := by
  rw [key]
  split
  · rename_i h
    rw [Except.ok.injEq, eq_comm, and_iff_right h]
  · rename_i h
    simp [h]

end Value

end CaseGrid
