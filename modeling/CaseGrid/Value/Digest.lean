import CaseGrid.Value.Basic

/-
  Digests of scalars: words of 64 bits, the same for scalars that are equal. The digest of a
  number is its residue modulo a prime, whatever its kind; texts and byte strings have the keyed
  digest SipHash-1-3 under the key zero, days and times that of their fields. The null and what is
  no number have a fixed digest each.
-/

namespace CaseGrid

open CaseGrid.Number (Binary64)

namespace Digest

/-- The word whose negative is not used as a digest. -/
def avoided : UInt64 := 0 - 1

/-- A digest in place of the one that is not used. -/
def usable (x : UInt64) : UInt64 := if x = avoided then 0 - 2 else x

/-- A word turned to the left. -/
def turned (x : UInt64) (n : UInt64) : UInt64 := (x <<< n) ||| (x >>> (64 - n))

/-- The four words between two steps of the digest of bytes. -/
structure Mixer where
  a : UInt64
  b : UInt64
  c : UInt64
  d : UInt64

namespace Mixer

/-- The words at the start, under the key zero. -/
def start : Mixer :=
  ⟨0x736f6d6570736575, 0x646f72616e646f6d, 0x6c7967656e657261, 0x7465646279746573⟩

/-- One round of mixing. -/
def round (m : Mixer) : Mixer :=
  let a := m.a + m.b
  let c := m.c + m.d
  let b := turned m.b 13 ^^^ a
  let d := turned m.d 16 ^^^ c
  let a := turned a 32
  let c := c + b
  let a := a + d
  let b := turned b 17 ^^^ c
  let d := turned d 21 ^^^ a
  ⟨a, b, turned c 32, d⟩

/-- Takes up a word. -/
def absorb (m : Mixer) (w : UInt64) : Mixer :=
  let m := { m with d := m.d ^^^ w }.round
  { m with a := m.a ^^^ w }

/-- The digest at the end. -/
def finish (m : Mixer) : UInt64 :=
  let m := { m with c := m.c ^^^ 0xff }.round.round.round
  (m.a ^^^ m.b) ^^^ (m.c ^^^ m.d)

end Mixer

/-- Bytes as a word, the first one least significant. -/
def word (bytes : List UInt8) : UInt64 :=
  bytes.foldr (fun b w => w * 256 + b.toUInt64) 0

/-- Takes up bytes, eight at a time; the last word holds what is left and the length. -/
def absorbAll (length : Nat) : Nat → Mixer → List UInt8 → Mixer
  | 0, m, _ => m
  | fuel + 1, m, bytes =>
    if bytes.length < 8 then
      m.absorb (word bytes ||| (UInt64.ofNat length <<< 56))
    else absorbAll length fuel (m.absorb (word (bytes.take 8))) (bytes.drop 8)

/-- The digest of bytes; that of none is zero. -/
def ofBytes (bytes : List UInt8) : UInt64 :=
  if bytes.isEmpty then 0
  else usable (absorbAll bytes.length (bytes.length + 1) .start bytes).finish

/-- The bytes of a number, least significant first. -/
def littleEndian : Nat → Nat → List UInt8
  | 0, _ => []
  | count + 1, n => UInt8.ofNat n :: littleEndian count (n / 256)

/-- The digest of code points, each in as many bytes as the greatest one needs: 1, 2 or 4. -/
def ofPoints (ps : Text.Points) : UInt64 :=
  let greatest := ps.foldl max 0
  let width := if greatest < 0x100 then 1 else if greatest < 0x10000 then 2 else 4
  ofBytes (ps.flatMap (littleEndian width))

/-- The prime that the digests of numbers are taken modulo. -/
def prime : Nat := Nat.pow 2 61 - 1

/-- The digest of a number of a sign whose magnitude has a residue. -/
def ofResidue (negative : Bool) (residue : Nat) : UInt64 :=
  let r := UInt64.ofNat residue
  usable (if negative then 0 - r else r)

/-- The digest of a whole number. -/
def ofInt (n : Int) : UInt64 :=
  ofResidue (n < 0) (n.natAbs % prime)

/-- The digest of what is no number. -/
def ofNan : UInt64 := 5

/-- The digest of the null. -/
def ofNull : UInt64 := 79

/-- The digest of a double: a power of two has a residue also where it is a fraction, as the
61st power is one. -/
def ofDouble : Binary64 → UInt64
  | .nan _ => ofNan
  | .infinite negative => ofResidue negative 314159
  | .finite negative m e => ofResidue negative (m * Nat.pow 2 (e % 61).toNat % prime)

/-- The digest of a list of digests. -/
def ofList (digests : List UInt64) : UInt64 :=
  let start : UInt64 := 2870177450012600261
  let mixed := digests.foldl (fun acc lane =>
    turned (acc + lane * 14029467366897019727) 31 * 11400714785074694791) start
  let sum := mixed + (UInt64.ofNat digests.length ^^^ (start ^^^ 3527539))
  if sum = avoided then 1546275796 else sum

/-- The bytes of a day: its year with the most significant byte first, its month and its day. -/
def dayBytes (d : Date) : List UInt8 :=
  (littleEndian 2 d.year).reverse ++ [UInt8.ofNat d.month, UInt8.ofNat d.day]

/-- The digest of a time: of its fields, or of the instant if its offset is known. -/
def ofTimestamp (t : Timestamp) : UInt64 :=
  match t.offset with
  | none =>
    ofBytes (dayBytes t.date ++
      [UInt8.ofNat t.hour, UInt8.ofNat t.minute, UInt8.ofNat t.second] ++
      (littleEndian 3 t.micro).reverse)
  | some _ =>
    let micros := t.instant
    let seconds := micros / 1000000
    ofList [ofInt (seconds / 86400), ofInt (seconds % 86400), ofInt (micros % 1000000)]

end Digest

/-- The digest of a scalar. -/
def Scalar.digest : Scalar → UInt64
  | .null => Digest.ofNull
  | .bool b => Digest.ofInt (if b then 1 else 0)
  | .int n => Digest.ofInt n
  | .float x => Digest.ofDouble x
  | .text s => Digest.ofPoints (.ofString s)
  | .broken b => Digest.ofPoints b.points
  | .bytes bs => Digest.ofBytes bs
  | .date d => Digest.ofBytes (Digest.dayBytes d)
  | .timestamp t => Digest.ofTimestamp t

/-- The digest of a value; values with parts, which no set holds, have none of their own. -/
def Value.digest : Value → UInt64
  | .scalar s => s.digest
  | _ => 0

example : Scalar.digest (.text "a") = 4644417185603328019 := by decide +kernel
example : Scalar.digest (.date ⟨2001, 1, 1⟩) = 7115534905376321389 := by decide +kernel
example : Scalar.digest (.timestamp ⟨⟨2001, 1, 1⟩, 2, 3, 4, 5, none⟩) = 542929060678334439 := by
  decide +kernel
example : Scalar.digest (.float (.ofRatio true 3 1)) = Scalar.digest (.int (-3)) := by
  decide +kernel

end CaseGrid
