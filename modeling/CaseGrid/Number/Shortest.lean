import CaseGrid.Number.Binary64

/-
  The shortest decimal digits that read back as a double. Reals within half a step of the
  double round to it, the two ends included exactly if its significand is even. For one digit,
  two digits and so on, the two decimal neighbours of the value are tried; the first grid that
  has one among those reals gives the digits, the nearer one if both are.
-/

namespace CaseGrid.Number.Binary64

/-- The least `k` with `num / den < 10 ^ k`, by search upwards from `start`. -/
def decimalPoint (num den : Nat) : Nat → Int → Int
  | 0, k => k
  | fuel + 1, k =>
    let below :=
      if k < 0 then num * Nat.pow 10 (-k).toNat < den else num < den * Nat.pow 10 k.toNat
    if below then k else decimalPoint num den fuel (k + 1)

/-- The reals that round to a positive double, as two numerators over one denominator. -/
structure RoundingInterval where
  low : Nat
  value : Nat
  high : Nat
  denominator : Nat
  closed : Bool

/-- The interval of `m · 2 ^ e`: half a step up, and down half of the step below. -/
def roundingInterval (m : Nat) (e : Int) : RoundingInterval :=
  let narrow := m = Nat.pow 2 52 ∧ e > leastExponent
  let low := if narrow then 4 * m - 1 else 4 * m - 2
  let (l, d) := magnitude low (e - 2)
  let (v, _) := magnitude (4 * m) (e - 2)
  let (h, _) := magnitude (4 * m + 2) (e - 2)
  ⟨l, v, h, d, m % 2 = 0⟩

/-- Whether `digits · 10 ^ k` lies in the interval. -/
def RoundingInterval.holds (i : RoundingInterval) (digits : Nat) (k : Int) : Bool :=
  let (x, d) := if k < 0 then (digits, Nat.pow 10 (-k).toNat) else (digits * Nat.pow 10 k.toNat, 1)
  let point := x * i.denominator
  if i.closed then i.low * d ≤ point && point ≤ i.high * d
  else i.low * d < point && point < i.high * d

/-- The digits on the grid of step `10 ^ k` that lie in the interval, nearest first. -/
def RoundingInterval.onGrid (i : RoundingInterval) (k : Int) : Option Nat :=
  let (n, d) :=
    if k < 0 then (i.value * Nat.pow 10 (-k).toNat, i.denominator)
    else (i.value, i.denominator * Nat.pow 10 k.toNat)
  let below := n / d
  let nearer := roundDiv n d
  let farther := if nearer = below then below + 1 else below
  if i.holds nearer k then some nearer
  else if i.holds farther k then some farther
  else none

/-- The first grid with a hit, from the coarsest; at most 17 digits are needed. -/
def RoundingInterval.search (i : RoundingInterval) (point : Int) : Nat → Nat → Nat × Int
  | 0, count => ((i.onGrid (point - count)).getD 0, point - count)
  | fuel + 1, count =>
    match i.onGrid (point - count) with
    | some digits => (digits, point - count)
    | none => i.search point fuel (count + 1)

/-- A decimal `0.d₁d₂… · 10 ^ point`, the first digit not zero. -/
structure Decimal where
  digits : List Char
  point : Int
  deriving DecidableEq, Repr

/-- The shortest decimal that reads back as `m · 2 ^ e`, for a positive significand. -/
def shortest (m : Nat) (e : Int) : Decimal :=
  let interval := roundingInterval m e
  let (n, d) := magnitude m e
  let start : Int := ((m.log2 : Int) + e) * 3 / 10 - 2
  let point := decimalPoint n d 64 start
  let (digits, k) := interval.search point 17 1
  let written := Nat.toDigits 10 digits
  let kept := (written.reverse.dropWhile (· == '0')).reverse
  ⟨kept, written.length + k⟩

end CaseGrid.Number.Binary64
