/-
  Rounding a quotient of natural numbers to the nearest whole number, a half to the even
  neighbour; and writing a quotient with a fixed number of decimal places.
-/

namespace CaseGrid.Number

/-- The whole number nearest to `num / den`; of two that are equally near, the even one. -/
def roundDiv (num den : Nat) : Nat :=
  let q := num / den
  let r := 2 * (num % den)
  if r < den then q
  else if r > den then q + 1
  else if q % 2 = 0 then q
  else q + 1

/-- The decimal digits of a number, at least `width` of them. -/
def paddedDigits (width n : Nat) : List Char :=
  let ds := Nat.toDigits 10 n
  List.replicate (width - ds.length) '0' ++ ds

/-- The quotient `num / den` with `places` decimal places, a half going to the even neighbour. -/
def fixedPlaces (places num den : Nat) : String :=
  let scaled := roundDiv (num * Nat.pow 10 places) den
  let whole := Nat.toDigits 10 (scaled / Nat.pow 10 places)
  if places = 0 then String.ofList whole
  else String.ofList (whole ++ '.' :: paddedDigits places (scaled % Nat.pow 10 places))

example : fixedPlaces 1 1 4 = "0.2" := by decide +kernel
example : fixedPlaces 1 3 4 = "0.8" := by decide +kernel
example : fixedPlaces 2 1565 100 = "15.65" := by decide +kernel

end CaseGrid.Number
