import CaseGrid.Number.Rounding

/-
  Double-precision numbers as exact data: a sign, a significand and a power of two, besides the
  infinities and what is no number. Every operation is done exactly on ratios of whole numbers
  and rounded once, to the nearest double, a half to the even significand.
-/

namespace CaseGrid.Number

/--
A double-precision number. A finite one is `± significand · 2 ^ exponent`, in the one form that
has a significand below `2 ^ 53` and, unless the exponent is the least one, at least `2 ^ 52`.
What is no number keeps a mark of where it comes from: it equals nothing, not even itself, but
it can be known again.
-/
inductive Binary64 where
  | nan (mark : Nat)
  | infinite (negative : Bool)
  | finite (negative : Bool) (significand : Nat) (exponent : Int)
  deriving DecidableEq, Repr, Inhabited

namespace Binary64

/-- The exponent of the finest numbers. -/
def leastExponent : Int := -1074

/-- The exponent of the coarsest finite numbers. -/
def greatestExponent : Int := 971

/-- The zero of a sign. -/
def zero (negative : Bool) : Binary64 :=
  .finite negative 0 leastExponent

/-- A quotient scaled by a power of two, `num / den / 2 ^ e`, as a quotient. -/
def scaled (num den : Nat) (e : Int) : Nat × Nat :=
  if e < 0 then (num * Nat.pow 2 (-e).toNat, den) else (num, den * Nat.pow 2 e.toNat)

/-- The exponent at which the significand of `num / den` has 53 binary digits. -/
def exponentFor (num den : Nat) : Int :=
  let guess : Int := (num.log2 : Int) - (den.log2 : Int) - 52
  let (n, d) := scaled num den guess
  if n < d * Nat.pow 2 52 then guess - 1 else guess

/-- The double nearest to `± num / den`. -/
def ofRatio (negative : Bool) (num den : Nat) : Binary64 :=
  if num = 0 then zero negative
  else
    let e := max leastExponent (exponentFor num den)
    let (n, d) := scaled num den e
    let m := roundDiv n d
    let (m, e) := if m = Nat.pow 2 53 then (Nat.pow 2 52, e + 1) else (m, e)
    if e > greatestExponent then .infinite negative else .finite negative m e

/-- The double nearest to a whole number. -/
def ofInt (n : Int) : Binary64 :=
  ofRatio (n < 0) n.natAbs 1

/-- A magnitude `m · 2 ^ e` as a quotient. -/
def magnitude (m : Nat) (e : Int) : Nat × Nat :=
  if e < 0 then (m, Nat.pow 2 (-e).toNat) else (m * Nat.pow 2 e.toNat, 1)

/-- The value of a finite double as a numerator with a sign, over a power of two. -/
def value (negative : Bool) (m : Nat) (e : Int) : Int × Nat :=
  let (n, d) := magnitude m e
  (if negative then -(n : Int) else n, d)

/-- Numeric equality: the zeros are equal, and what is no number equals nothing. -/
def same : Binary64 → Binary64 → Bool
  | .infinite a, .infinite b => a == b
  | .finite a m e, .finite b n f =>
    let (x, c) := value a m e
    let (y, d) := value b n f
    x * d == y * c
  | _, _ => false

/-- Whether a double has exactly the value of a whole number. -/
def sameInt : Binary64 → Int → Bool
  | .finite a m e, n =>
    let (x, c) := value a m e
    x == n * c
  | _, _ => false

/-- Whether a double is known to be the other one: it is equal, or no number of the same mark. -/
def alike : Binary64 → Binary64 → Bool
  | .nan a, .nan b => a == b
  | x, y => x.same y

/-- The same number with the other sign. -/
def negate : Binary64 → Binary64
  | .nan mark => .nan mark
  | .infinite a => .infinite !a
  | .finite a m e => .finite (!a) m e

/-- The mark of what an operation makes of operands that have no result. -/
def unmarked : Nat := 0

/-- The same number; what is no number gets another mark. -/
def withMark (mark : Nat) : Binary64 → Binary64
  | .nan _ => .nan mark
  | x => x

/-- The nearest double to a sum. Opposite infinities have none, and a sum of zeros that differ
in sign is the positive zero. -/
def add : Binary64 → Binary64 → Binary64
  | .nan mark, _ => .nan mark
  | _, .nan mark => .nan mark
  | .infinite a, .infinite b => if a == b then .infinite a else .nan unmarked
  | .infinite a, _ => .infinite a
  | _, .infinite b => .infinite b
  | .finite a m e, .finite b n f =>
    let (x, c) := value a m e
    let (y, d) := value b n f
    let sum := x * d + y * c
    if sum == 0 then zero (a && b) else ofRatio (sum < 0) sum.natAbs (c * d)

/-- The nearest double to a difference; it is the positive zero for equal finite numbers. -/
def sub (x y : Binary64) : Binary64 :=
  x.add y.negate

/-- The nearest double to a product. A zero times an infinity is no number. -/
def mul : Binary64 → Binary64 → Binary64
  | .nan mark, _ => .nan mark
  | _, .nan mark => .nan mark
  | .infinite a, .infinite b => .infinite (a != b)
  | .infinite a, .finite b n _ => if n = 0 then .nan unmarked else .infinite (a != b)
  | .finite a m _, .infinite b => if m = 0 then .nan unmarked else .infinite (a != b)
  | .finite a m e, .finite b n f =>
    let (x, c) := magnitude m e
    let (y, d) := magnitude n f
    ofRatio (a != b) (x * y) (c * d)

example : ofRatio false 1 2 = .finite false (Nat.pow 2 52) (-53) := by decide +kernel
example : same (ofInt 0) (zero true) = true := by decide +kernel
example : same (.nan 1) (.nan 1) = false := by decide
example : alike (.nan 1) (.nan 1) = true := by decide
example : sameInt (ofRatio false 3 1) 3 = true := by decide +kernel

end Binary64

end CaseGrid.Number
