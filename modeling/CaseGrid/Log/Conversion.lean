import CaseGrid.Failure.Basic
import CaseGrid.Log.Piece
import CaseGrid.Number.Places

/-
  What a directive makes of a value: a text, a whole number to a base, a double in one of its
  forms, or a single character, set out in the width that the directive asks for. A letter that
  stands for no form, and a value that has no such form, are failures.
-/

namespace CaseGrid.Log

open CaseGrid.Number (Binary64 PlacesForm)

/-- What is to be set out in a width. -/
structure Written where
  text : List Char
  isNumber : Bool := false
  /-- The characters at the head of the digits that mark a base. -/
  markLength : Nat := 0

namespace Conversion

/-- A failure of a kind. -/
def failWith {α : Type} (kind : ErrorKind) (message : String) : Except Failure α :=
  .error (.other kind message)

/-- The literal of a value in ASCII, other characters by their numbers. -/
def asciiLiteral (v : Value) : List Char :=
  v.literal.toList.flatMap fun c => if c.toNat < 0x80 then [c] else Text.numbered c.toNat

/-- A text, cut to a precision. -/
def cutText (precision : Option Nat) (text : List Char) : Written :=
  { text := match precision with
      | some n => text.take n
      | none => text }

/-- The whole number that a value counts as: a double counts without its fraction. -/
def whole? : Value → Option Int
  | .float x =>
    match x with
    | .finite negative m e =>
      let (n, d) := Binary64.magnitude m e
      some (if negative then -((n / d : Nat) : Int) else (n / d : Nat))
    | _ => none
  | .scalar s => s.whole?
  | _ => none

/-- The double that a value counts as. -/
def double (v : Value) : Except Failure Binary64 :=
  match v with
  | .float x => .ok x
  | .scalar s =>
    match s.whole? with
    | some n =>
      match Binary64.ofInt n with
      | .infinite _ => failWith .overflowError "int too large to convert to float"
      | x => .ok x
    | none => failWith .typeError ("must be real number, not " ++ v.kindName)
  | _ => failWith .typeError ("must be real number, not " ++ v.kindName)

/-- The greatest number that a precision may be, for whole numbers. -/
def greatestPrecision : Nat := Nat.pow 2 31 - 4

/-- A whole number to a base, the mark of the base before its digits if it is asked for. -/
def wholeText (letter : Char) (marked : Bool) (precision : Option Nat) (v : Value) :
    Except Failure Written :=
  let base := if letter == 'o' then 8 else if letter == 'x' || letter == 'X' then 16 else 10
  let isFloat := match v with
    | .float _ => true
    | _ => false
  match if isFloat && base != 10 then none else whole? v with
  | none =>
    failWith .typeError ("%" ++ String.singleton letter ++ " format: " ++
      (if base = 10 then "a real number" else "an integer") ++ " is required, not " ++ v.kindName)
  | some n =>
    if precision.getD 0 > greatestPrecision then failWith .overflowError "precision too large"
    else
      let digits := Nat.toDigits base n.natAbs
      let filled := List.replicate (precision.getD 0 - digits.length) '0' ++ digits
      let capital (c : Char) : Char := if letter == 'X' then c.toUpper else c
      let mark := if marked && base != 10 then ['0', letter] else []
      .ok { text := (if n < 0 then ['-'] else []) ++ mark ++ filled.map capital
            isNumber := true
            markLength := mark.length }

/-- A double in the form of a letter. -/
def doubleText (letter : Char) (keepPoint : Bool) (precision : Option Nat) (v : Value) :
    Except Failure Written := do
  let x ← double v
  let form : PlacesForm :=
    if letter.toLower == 'e' then .scientific else if letter.toLower == 'f' then .fixed else .general
  let text := x.inForm form keepPoint (precision.getD 6)
  return { text := if letter.isUpper then text.map Char.toUpper else text, isNumber := true }

/-- A single character: that of a number, or a text of one. -/
def characterText (v : Value) : Except Failure Written :=
  match v with
  | .text s =>
    if s.length = 1 then .ok { text := s.toList } else failWith .typeError "%c requires int or char"
  | .scalar s =>
    match s.whole? with
    | some n =>
      if 0 ≤ n ∧ n < 0x110000 then .ok { text := Text.Points.chars [n.toNat] }
      else failWith .overflowError "%c arg not in range(0x110000)"
    | none => failWith .typeError "%c requires int or char"
  | _ => failWith .typeError "%c requires int or char"

/-- A letter that stands for no form, at a position. -/
def unknownLetter {α : Type} (letter : Char) (position : Nat) : Except Failure α :=
  let shown := if 31 ≤ letter.toNat && letter.toNat ≤ 126 then letter else '?'
  failWith .valueError ("unsupported format character '" ++ String.singleton shown ++ "' (0x" ++
    String.ofList (Nat.toDigits 16 letter.toNat) ++ ") at index " ++ toString position)

/-- A value in the form that a letter stands for. -/
def write (signs : List Char) (precision : Option Nat) (letter : Char) (position : Nat)
    (v : Value) : Except Failure Written :=
  let alternate := signs.contains '#'
  if letter == 's' then .ok (cutText precision v.label.toList)
  else if letter == 'r' then .ok (cutText precision v.literal.toList)
  else if letter == 'a' then .ok (cutText precision (asciiLiteral v))
  else if "diuoxX".toList.contains letter then wholeText letter alternate precision v
  else if "eEfFgG".toList.contains letter then doubleText letter alternate precision v
  else if letter == 'c' then characterText v
  else unknownLetter letter position

/-- The sign before a number, and the rest. -/
def signOf (signs : List Char) (w : Written) : List Char × List Char :=
  if w.isNumber then
    match w.text with
    | '-' :: rest => (['-'], rest)
    | text =>
      (if signs.contains '+' then ['+'] else if signs.contains ' ' then [' '] else [], text)
  else ([], w.text)

/-- What is written, filled up to a width: on the right, with zeros after the sign and the mark of
the base, or on the left. -/
def setOut (signs : List Char) (width : Nat) (w : Written) : List Char :=
  let (sign, body) := signOf signs w
  let mark := body.take w.markLength
  let digits := body.drop w.markLength
  let lack := width - (sign ++ body).length
  if signs.contains '-' then sign ++ body ++ List.replicate lack ' '
  else if signs.contains '0' && w.isNumber then sign ++ mark ++ List.replicate lack '0' ++ digits
  else List.replicate lack ' ' ++ sign ++ body

end Conversion

end CaseGrid.Log
