/-
  The limit on the decimal digits of whole numbers. A longer number can be worked with, but it is
  neither read from decimal digits nor written in them.
-/

namespace CaseGrid.Number

/-- The most decimal digits that a whole number is read from or written with. -/
def digitLimit : Nat := 4300

/-- Whether a whole number has more digits than are written. -/
def isTooLong (n : Int) : Bool :=
  Nat.pow 10 digitLimit ≤ n.natAbs

/-- What both refusals begin with. -/
def limitExceeded : String :=
  "Exceeds the limit (" ++ toString digitLimit ++ " digits) for integer string conversion"

/-- What both refusals end with. -/
def limitAdvice : String :=
  "; use sys.set_int_max_str_digits() to increase the limit"

/-- The refusal to write a number. -/
def writingRefused : String :=
  limitExceeded ++ limitAdvice

/-- The refusal to read a number of so many digits. -/
def readingRefused (digits : Nat) : String :=
  limitExceeded ++ ": value has " ++ toString digits ++ " digits" ++ limitAdvice

example : isTooLong (Nat.pow 10 4300 - 1) = false := by decide +kernel
example : isTooLong (-(Nat.pow 10 4300 : Nat)) = true := by decide +kernel

end CaseGrid.Number
