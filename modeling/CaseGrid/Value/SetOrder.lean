import CaseGrid.Value.Digest

/-
  The order in which the members of a set are shown: that of a table with a power of two of
  slots, more than twice as many as there are members unless those are four at most. A member
  goes to the slot that its digest names, or to one of the nine after it, or else to slots that
  follow from the digest, whichever is free first.
-/

namespace CaseGrid

namespace SlotTable

/-- The number of slots for a number of members: at least eight. -/
def slotCount (members : Nat) : Nat :=
  if members ≤ 4 then 8
  else Nat.pow 2 ((2 * members).log2 + 1)

/-- The number of slots looked at after the one that is named. -/
def neighbours : Nat := 9

/-- The first free slot among some from one on. -/
def freeAmong {α : Type} (table : Array (Option α)) (slot : Nat) : Nat → Option Nat
  | 0 => none
  | count + 1 =>
    match table[slot]? with
    | some none => some slot
    | _ => freeAmong table (slot + 1) count

/-- The slot of a member, from a slot on; `rest` is what is left of its digest. Once that is used
up the slots run through the whole table, so `fuel` need not exceed their number by more than
the digits of the digest. -/
def slotFrom {α : Type} (table : Array (Option α)) : Nat → Nat → Nat → Nat
  | 0, slot, _ => slot
  | fuel + 1, slot, rest =>
    let more := if slot + neighbours < table.size then neighbours else 0
    match freeAmong table slot (more + 1) with
    | some free => free
    | none =>
      let rest := rest / 32
      slotFrom table fuel ((slot * 5 + 1 + rest) % table.size) rest

/-- Puts a member of a digest into a table. -/
def insert {α : Type} (digest : α → UInt64) (table : Array (Option α)) (a : α) :
    Array (Option α) :=
  let n := (digest a).toNat
  table.setIfInBounds (slotFrom table (table.size + 14) (n % table.size) n) (some a)

/-- The members in the order of their slots. -/
def arrange {α : Type} (digest : α → UInt64) (members : List α) : List α :=
  let empty : Array (Option α) := Array.replicate (slotCount members.length) none
  ((members.foldl (insert digest) empty).toList).filterMap id

example : arrange Digest.ofInt [10, 2, 33] = [33, 10, 2] := by decide +kernel
example : arrange Digest.ofInt [3, 1, 2, 8, 0] = [0, 1, 2, 3, 8] := by decide +kernel

end SlotTable

end CaseGrid
