import CaseGrid.Failure.Fault
import CaseGrid.Value.Equality

/-
  The items of a value, and mappings made from pairs. A text has its characters as items, a
  byte string its numbers, a mapping its keys; only values without changeable parts can be keys.
  Lengths and indices are bounded, and so are the numbers that can be written.
-/

namespace CaseGrid

namespace Value

/-- The items of a value that has some. -/
def items? : Value → Option (List Value)
  | .text s => some (s.toList.map fun c => .text (String.singleton c))
  | .scalar (.broken b) => some (b.points.map fun n => .scalar (.ofPoints [n]))
  | .bytes bs => some (bs.map fun b => .int b.toNat)
  | .list xs => some xs
  | .tuple xs => some xs
  | .set xs => some xs
  | .map es => some (es.map (·.1))
  | _ => none

/-- The items of a value, or the fault that it has none. -/
def items (v : Value) : Except Fault (List Value) :=
  match v.items? with
  | some xs => .ok xs
  | none => .error (.notIterable v.kindName)

/-- A value as a key, or the fault that it cannot be one. -/
def key (v : Value) : Except Fault Value :=
  if v.hashable then .ok v else .error (.unhashable v.unhashableKind)

/-- The literal of a value, unless a number in it is too long. -/
def written (v : Value) : Except Fault String :=
  if v.isTooLong then .error .numberTooLong else .ok v.literal

/-- The label of a value, unless a number in it is too long. -/
def shown (v : Value) : Except Fault String :=
  if v.isTooLong then .error .numberTooLong else .ok v.label

/-- The label of a value as a value: code points that are no text stay as they are. -/
def named : Value → Except Fault Value
  | .scalar (.broken b) => .ok (.scalar (.broken b))
  | v => if v.isTooLong then .error .numberTooLong else .ok (.text v.label)

theorem eq_numberTooLong_of_written {v : Value} {e : Fault} (h : v.written = .error e) :
    e = .numberTooLong := by
  unfold written at h
  split at h <;> cases h
  rfl

theorem eq_numberTooLong_of_shown {v : Value} {e : Fault} (h : v.shown = .error e) :
    e = .numberTooLong := by
  unfold shown at h
  split at h <;> cases h
  rfl

theorem eq_numberTooLong_of_named {v : Value} {e : Fault} (h : v.named = .error e) :
    e = .numberTooLong := by
  unfold named at h
  split at h
  · cases h
  · split at h <;> cases h
    rfl

/-- The greatest length there is. -/
def greatestLength : Nat := Nat.pow 2 63 - 1

/-- Whether a number can be a length or an index, which may count from the end. -/
def fitsIndex (n : Int) : Bool :=
  -(greatestLength : Int) - 1 ≤ n && n ≤ greatestLength

end Value

/-- The mapping of pairs that are made one after the other. -/
def Entries.collect {α β : Type} (pairOf : β → Except Fault (Value × α)) (sources : List β) :
    Except Fault (Entries α) := do
  let pairs ← sources.mapM fun x => do
    let p ← pairOf x
    return (← p.1.key, p.2)
  return Entries.ofPairs pairs

end CaseGrid
