import CaseGrid.Number.Shortest

/-
  Doubles written with a given number of digits: positional with a number of decimal places, or
  with an exponent, or in the form that suits the size of the number. The value is rounded once,
  a half to the even neighbour. A written number keeps a final point and final zeros where it is
  asked to.
-/

namespace CaseGrid.Number

/-- The exponent of the first decimal digit of a quotient that is not zero. -/
def leadingExponent (num den : Nat) : Int :=
  let guess : Int := ((num.log2 : Int) - den.log2) * 3 / 10 - 2
  Binary64.decimalPoint num den 64 guess - 1

/-- A quotient rounded to a number of digits: the digits, and the exponent of the first. -/
def significant (count num den : Nat) : List Char × Int :=
  if num = 0 then (List.replicate count '0', 0)
  else
    let e := leadingExponent num den
    let shift : Int := count - 1 - e
    let n :=
      if shift < 0 then roundDiv num (den * Nat.pow 10 (-shift).toNat)
      else roundDiv (num * Nat.pow 10 shift.toNat) den
    if n = Nat.pow 10 count then (Nat.toDigits 10 (Nat.pow 10 (count - 1)), e + 1)
    else (Nat.toDigits 10 n, e)

/-- The forms of a double with a given number of digits. -/
inductive PlacesForm where
  /-- Positional, with decimal places. -/
  | fixed
  /-- One digit, decimal places and an exponent. -/
  | scientific
  /-- Positional for small exponents, without final zeros, and a number of digits in all. -/
  | general
  deriving DecidableEq, Repr

namespace PlacesForm

/-- A whole part and decimal places; the point is left out if nothing follows it, unless it is
to be kept. -/
def pointed (keepPoint : Bool) (whole places : List Char) : List Char :=
  if places.isEmpty && !keepPoint then whole else whole ++ '.' :: places

/-- An exponent with its sign and at least two digits. -/
def exponent (e : Int) : List Char :=
  'e' :: (if e < 0 then '-' else '+') :: paddedDigits 2 e.natAbs

/-- Digits without the zeros at the end. -/
def withoutZeros (ds : List Char) : List Char :=
  (ds.reverse.dropWhile (· == '0')).reverse

/-- A quotient in a form. -/
def write (form : PlacesForm) (keepPoint : Bool) (precision num den : Nat) : List Char :=
  match form with
  | fixed =>
    let text := (fixedPlaces precision num den).toList
    if precision = 0 then pointed keepPoint text [] else text
  | scientific =>
    let (ds, e) := significant (precision + 1) num den
    pointed keepPoint (ds.take 1) (ds.drop 1) ++ exponent e
  | general =>
    let count := max 1 precision
    let (ds, e) := significant count num den
    let kept (places : List Char) := if keepPoint then places else withoutZeros places
    if -4 ≤ e ∧ e < count then
      if e < 0 then
        pointed keepPoint ['0'] (kept (List.replicate (-e - 1).toNat '0' ++ ds))
      else pointed keepPoint (ds.take (e.toNat + 1)) (kept (ds.drop (e.toNat + 1)))
    else pointed keepPoint (ds.take 1) (kept (ds.drop 1)) ++ exponent e

end PlacesForm

/-- A double in a form. -/
def Binary64.inForm (form : PlacesForm) (keepPoint : Bool) (precision : Nat) :
    Binary64 → List Char
  | .nan _ => "nan".toList
  | .infinite negative => (if negative then "-inf" else "inf").toList
  | .finite negative m e =>
    let (num, den) := magnitude m e
    let text := form.write keepPoint precision num den
    if negative then '-' :: text else text

example : PlacesForm.scientific.write false 6 35 1 = "3.500000e+01".toList := by decide +kernel
example : PlacesForm.general.write false 6 1234567 1 = "1.23457e+06".toList := by decide +kernel
example : PlacesForm.general.write false 6 1 8 = "0.125".toList := by decide +kernel
example : PlacesForm.general.write true 6 0 1 = "0.00000".toList := by decide +kernel
example : PlacesForm.scientific.write false 0 95 10 = "1e+01".toList := by decide +kernel
example : PlacesForm.fixed.write true 0 5 2 = "2.".toList := by decide +kernel

end CaseGrid.Number
