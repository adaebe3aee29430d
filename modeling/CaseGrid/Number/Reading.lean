import CaseGrid.Number.Binary64
import CaseGrid.Text.Blank
import CaseGrid.Text.Digit

/-
  Reading numbers from text. White space at the ends does not count, digits of any script are taken,
  and a low line may stand between two digits. A whole number may carry the mark of its base
  (`0b`, `0o`, `0x`); a decimal number may have a point, an exponent, or be one of the words for
  infinity and for no number, in either case of letters.
-/

namespace CaseGrid.Number

open CaseGrid.Text

/--
The digits of a number to a base, most significant first, and their count. A low line is
passed over where a digit stands before and after it; `after` tells whether one may follow.
-/
def readDigits (base : Nat) : Bool → Nat → List Char → Option Nat
  | after, value, [] => if after then some value else none
  | after, value, c :: cs =>
    if c == '_' then
      if after then readDigits base false value cs else none
    else
      match hexValue? c with
      | some d => if d < base then readDigits base true (value * base + d) cs else none
      | none => none

/-- A sign, and the rest. -/
def readSign : List Char → Bool × List Char
  | '-' :: cs => (true, cs)
  | '+' :: cs => (false, cs)
  | cs => (false, cs)

/-- The letter that marks a base, small. -/
def baseLetter? (base : Nat) : Option Char :=
  if base = 2 then some 'b' else if base = 8 then some 'o' else if base = 16 then some 'x' else none

/-- The text without the mark of its base, if it has one. -/
def dropBaseMark (base : Nat) : List Char → List Char
  | '0' :: c :: cs =>
    if baseLetter? base = some c.toLower then
      match cs with
      | '_' :: rest => rest
      | _ => cs
    else '0' :: c :: cs
  | cs => cs

/-- The number of decimal digits at the head of a text, after white space and a sign. -/
def leadingDigits (cs : List Char) : Nat :=
  let body := (readSign (cs.dropWhile isWhite)).2
  (body.takeWhile fun c => (digitValue? c).isSome).length

/-- The whole number that a text writes to a base. -/
def readInt? (base : Nat) (cs : List Char) : Option Int :=
  let (negative, body) := readSign (trimBy isWhite cs)
  (readDigits base false 0 (dropBaseMark base body)).map fun n =>
    if negative then -(n : Int) else n

/-- Digits of any script as ASCII digits. -/
def plainDigits (cs : List Char) : List Char :=
  cs.map fun c =>
    match digitValue? c with
    | some d => Char.ofNat (0x30 + d)
    | none => c

/-- The text without its low lines, if each stands between two digits. -/
def dropLowLines : Char → List Char → Option (List Char)
  | before, [] => if before == '_' then none else some []
  | before, c :: cs =>
    if c == '_' then
      if before.isDigit then dropLowLines c cs else none
    else if before == '_' && !c.isDigit then none
    else (dropLowLines c cs).map (c :: ·)

/-- The value of a run of ASCII digits. -/
def digitsValue (cs : List Char) : Nat :=
  cs.foldl (fun n c => n * 10 + (c.toNat - 0x30)) 0

/-- An exponent: nothing, or a letter, a sign and digits. -/
def readExponent? : List Char → Option Int
  | [] => some 0
  | c :: cs =>
    if c == 'e' || c == 'E' then
      let (negative, body) := readSign cs
      if !body.isEmpty && body.all Char.isDigit then
        some (if negative then -(digitsValue body : Int) else digitsValue body)
      else none
    else none

/--
The double nearest to `digits · 10 ^ exponent`. Beyond 400 places in either direction the
magnitude is past every double, so that the power need not be formed.
-/
def ofDecimal (negative : Bool) (digits : Nat) (exponent : Int) : Binary64 :=
  let size : Int := (Nat.toDigits 10 digits).length
  if digits = 0 then Binary64.zero negative
  else if size + exponent > 400 then .infinite negative
  else if size + exponent < -400 then Binary64.zero negative
  else if exponent < 0 then Binary64.ofRatio negative digits (Nat.pow 10 (-exponent).toNat)
  else Binary64.ofRatio negative (digits * Nat.pow 10 exponent.toNat) 1

/-- A decimal without its sign: digits, perhaps a point and more digits, perhaps an exponent. -/
def readUnsigned? (negative : Bool) (cs : List Char) : Option Binary64 :=
  let whole := cs.takeWhile Char.isDigit
  let rest := cs.dropWhile Char.isDigit
  let (fraction, rest) :=
    match rest with
    | '.' :: more => (more.takeWhile Char.isDigit, more.dropWhile Char.isDigit)
    | _ => ([], rest)
  if whole.isEmpty && fraction.isEmpty then none
  else
    (readExponent? rest).map fun exponent =>
      ofDecimal negative (digitsValue (whole ++ fraction)) (exponent - fraction.length)

/-- The double that a text writes; `mark` is for what is no number. -/
def readFloat? (mark : Nat) (cs : List Char) : Option Binary64 :=
  match dropLowLines ' ' (plainDigits (trimBy isWhite cs)) with
  | none => none
  | some plain =>
    let (negative, body) := readSign plain
    let word := String.ofList (body.map Char.toLower)
    if word = "inf" ∨ word = "infinity" then some (.infinite negative)
    else if word = "nan" then some (.nan mark)
    else readUnsigned? negative body

example : readInt? 10 " -1_000\n".toList = some (-1000) := by decide +kernel
example : readInt? 16 "0x_ff".toList = some 255 := by decide +kernel
example : readInt? 10 "1__0".toList = none := by decide +kernel
example : leadingDigits " -120x1".toList = 3 := by decide +kernel
example : readFloat? 0 "1_0.5e1".toList = some (Binary64.ofInt 105) := by decide +kernel
example : readFloat? 0 "-Infinity".toList = some (.infinite true) := by decide +kernel
example : readFloat? 0 ".".toList = none := by decide +kernel

end CaseGrid.Number
