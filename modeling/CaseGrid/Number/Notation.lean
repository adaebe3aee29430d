import CaseGrid.Number.Shortest

/-
  The written form of a double: the shortest digits that read back, positional from 0.0001 up
  to below 10 ^ 16 and with an exponent of at least two digits elsewhere. A whole number keeps
  a final zero after the point.
-/

namespace CaseGrid.Number

/-- The decisions of a format for doubles. -/
structure FloatFormat where
  /-- The least exponent (of the first digit) that is written positionally. -/
  leastPositional : Int
  /-- The greatest exponent that is written positionally. -/
  greatestPositional : Int
  /-- The least number of digits of an exponent. -/
  exponentDigits : Nat

/-- Positional from `1e-04` to `9e+15`, exponents of two digits or more. -/
def floatFormat : FloatFormat := ⟨-4, 15, 2⟩

namespace FloatFormat

/-- Digits with the point after the first `point` of them, zeros filled in on either side. -/
def positional (digits : List Char) (point : Int) : List Char :=
  if point ≤ 0 then
    '0' :: '.' :: (List.replicate (-point).toNat '0' ++ digits)
  else if digits.length ≤ point.toNat then
    digits ++ List.replicate (point.toNat - digits.length) '0' ++ ['.', '0']
  else
    digits.take point.toNat ++ '.' :: digits.drop point.toNat

/-- One digit, the others after a point, and the exponent with its sign. -/
def scientific (format : FloatFormat) (digits : List Char) (exponent : Int) : List Char :=
  let lead := digits.take 1
  let rest := digits.drop 1
  let significand := if rest.isEmpty then lead else lead ++ '.' :: rest
  let sign := if exponent < 0 then '-' else '+'
  significand ++ 'e' :: sign :: paddedDigits format.exponentDigits exponent.natAbs

/-- The written form of a decimal. -/
def decimal (format : FloatFormat) (d : Binary64.Decimal) : List Char :=
  let exponent := d.point - 1
  if format.leastPositional ≤ exponent ∧ exponent ≤ format.greatestPositional then
    positional d.digits d.point
  else
    format.scientific d.digits exponent

end FloatFormat

/-- The written form of a double. -/
def Binary64.text : Binary64 → String
  | .nan _ => "nan"
  | .infinite negative => if negative then "-inf" else "inf"
  | .finite negative m e =>
    let body :=
      if m = 0 then ['0', '.', '0'] else floatFormat.decimal (Binary64.shortest m e)
    String.ofList (if negative then '-' :: body else body)

/-- The written form of a double with a number of decimal places. -/
def Binary64.fixed (places : Nat) : Binary64 → String
  | .finite negative m e =>
    let (num, den) := magnitude m e
    (if negative then "-" else "") ++ fixedPlaces places num den
  | x => x.text

example : (Binary64.ofRatio false 1 10).text = "0.1" := by decide +kernel
example : (Binary64.ofRatio true 3 2).text = "-1.5" := by decide +kernel
example : (Binary64.ofRatio false (Nat.pow 10 16) 1).text = "1e+16" := by decide +kernel
example : (Binary64.ofRatio false (Nat.pow 10 16 - 2) 1).text = "9999999999999998.0" := by
  decide +kernel
example : (Binary64.ofRatio false 1 100000).text = "1e-05" := by decide +kernel
example : (Binary64.ofRatio false 5 (Nat.pow 10 324)).text = "5e-324" := by decide +kernel

example : (Binary64.ofRatio true 125 1000).fixed 2 = "-0.12" := by decide +kernel

end CaseGrid.Number
