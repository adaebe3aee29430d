import CaseGrid.Number.Limit
import CaseGrid.Number.Reading
import CaseGrid.Text.Base64
import CaseGrid.Text.LetterCase
import CaseGrid.Value.Basic
import CaseGrid.Yaml.Tag
import CaseGrid.Yaml.Trouble

/-
  The scalars that tagged texts stand for. A text that its tag cannot read breaks off, mostly
  not with trouble of the document but with a failure of the reading itself.
-/

namespace CaseGrid.Yaml

open CaseGrid.Number (Binary64 digitLimit leadingDigits readFloat? readInt? readingRefused)
open CaseGrid.Text (Points)

namespace Tagged

/-- A failed reading of a value. -/
def badValue {α : Type} (message : String) : Except Trouble α :=
  .error (.failed .value message)

/-- The failure of asking for the first character of an empty text. -/
def noCharacter {α : Type} : Except Trouble α :=
  .error (.failed .index "string index out of range")

/-- Whether a code point is a character. -/
def isChar (c : Char) (n : Nat) : Bool := n == c.toNat

/-- The text without its low lines. -/
def withoutLines (text : Points) : Points :=
  text.filter fun n => !isChar '_' n

/-- The sign of a text that has a first character, and the rest. -/
def signed : Points → Except Trouble (Bool × Points)
  | [] => noCharacter
  | n :: ns => .ok (isChar '-' n, if isChar '-' n || isChar '+' n then ns else n :: ns)

/-- The parts of a text between its colons. -/
def colonParts (text : Points) : List Points :=
  text.foldr (fun n parts =>
    if isChar ':' n then [] :: parts
    else
      match parts with
      | [] => [[n]]
      | part :: rest => (n :: part) :: rest) [[]]

/-- The most characters of a text that is no whole number in the message that says so. -/
def shownLimit : Nat := 200

/-- The whole number that a text writes to a base. -/
def integer (base : Nat) (text : Points) : Except Trouble Int :=
  let digits := leadingDigits text.chars
  if base = 10 ∧ digits > digitLimit then badValue (readingRefused digits)
  else
    match readInt? base text.chars with
    | some n => .ok n
    | none =>
      badValue ("invalid literal for int() with base " ++ toString base ++ ": " ++
        String.ofList (text.literal.toList.take shownLimit))

/-- The double that a text writes; `mark` is for what is no number. -/
def decimal (mark : Nat) (text : Points) : Except Trouble Binary64 :=
  match readFloat? mark text.chars with
  | some x => .ok x
  | none => badValue ("could not convert string to float: " ++ text.literal)

/-- A whole number in one of the ways of YAML. -/
def readInteger (text : Points) : Except Trouble Int := do
  let (negative, body) ← signed (withoutLines text)
  let n ← match body.chars with
    | [] => noCharacter
    | ['0'] => pure 0
    | '0' :: 'b' :: _ => integer 2 (body.drop 2)
    | '0' :: 'x' :: _ => integer 16 (body.drop 2)
    | '0' :: _ => integer 8 body
    | _ =>
      if body.any (isChar ':') then do
        let parts ← (colonParts body).mapM (integer 10)
        pure (parts.foldl (fun n d => n * 60 + d) 0)
      else integer 10 body
  return if negative then -n else n

/-- A power of sixty as a double, if it is one. -/
def sixtyPower (k : Nat) : Except Trouble Binary64 :=
  match Binary64.ofInt (Nat.pow 60 k) with
  | .infinite _ => .error (.failed .overflow "int too large to convert to float")
  | x => .ok x

/-- The sum of parts, each sixty times the next, formed from the last one on. -/
def sixtieths : Nat → Binary64 → List Binary64 → Except Trouble Binary64
  | _, sum, [] => .ok sum
  | k, sum, d :: ds => do
    let unit ← sixtyPower k
    sixtieths (k + 1) (sum.add (d.mul unit)) ds

/-- A double in one of the ways of YAML. The sign for no number is one and the same wherever it
stands; `mark` is for what is no number for another reason. -/
def readDouble (mark : Nat) (text : Points) : Except Trouble Binary64 := do
  let (negative, body) ← signed (Text.lowerPoints (withoutLines text))
  let turn (x : Binary64) : Binary64 := if negative then x.negate else x
  if body.chars = ".inf".toList then return turn (.infinite false)
  else if body.chars = ".nan".toList then return .nan Binary64.unmarked
  else if body.any (isChar ':') then
    let parts ← (colonParts body).mapM (decimal mark)
    let sum ← sixtieths 0 (.zero false) parts.reverse
    return (turn sum).withMark mark
  else return turn (← decimal mark body)

/-- A truth value. -/
def readBool (text : Points) : Except Trouble Bool :=
  let lowered := Text.lowerPoints text
  let word := String.ofList lowered.chars
  if ["yes", "true", "on"].contains word then .ok true
  else if ["no", "false", "off"].contains word then .ok false
  else .error (.failed .key lowered.literal)

/-- The ASCII digits at the head, from `least` to `most` of them, and the rest. -/
def digits? (least most : Nat) (cs : List Char) : Option (Nat × List Char) :=
  let run := (cs.takeWhile Char.isDigit).take most
  if run.length < least then none
  else some (Number.digitsValue run, cs.drop run.length)

/-- A given character at the head, and the rest. -/
def mark? (c : Char) : List Char → Option (List Char)
  | x :: cs => if x == c then some cs else none
  | [] => none

/-- The parts of a time after its date. -/
structure TimeParts where
  hour : Nat
  minute : Nat
  second : Nat
  micro : Nat
  offset : Option Int

/-- The first six digits of a fraction as microseconds. -/
def microseconds (fraction : List Char) : Nat :=
  Number.digitsValue ((fraction ++ List.replicate 6 '0').take 6)

/-- The offset of a time from universal time, at the end of a text. -/
def offset? (cs : List Char) : Option (Option Int) :=
  match cs.dropWhile fun c => c == ' ' || c == '\t' with
  | [] => if cs.isEmpty then some none else none
  | ['Z'] => some (some 0)
  | sign :: rest =>
    if sign == '+' || sign == '-' then do
      let (hours, rest) ← digits? 1 2 rest
      let minutes ← match rest with
        | [] => some 0
        | _ => do
          let (minutes, rest) ← digits? 2 2 (← mark? ':' rest)
          if rest.isEmpty then some minutes else none
      let total : Int := hours * 60 + minutes
      return some (if sign == '-' then -total else total)
    else none

/-- The time of day that follows a date. -/
def time? (cs : List Char) : Option TimeParts := do
  let rest ← match cs with
    | 'T' :: rest => some rest
    | 't' :: rest => some rest
    | _ =>
      let rest := cs.dropWhile fun c => c == ' ' || c == '\t'
      if rest.length < cs.length then some rest else none
  let (hour, rest) ← digits? 1 2 rest
  let (minute, rest) ← digits? 2 2 (← mark? ':' rest)
  let (second, rest) ← digits? 2 2 (← mark? ':' rest)
  let (fraction, rest) := match rest with
    | '.' :: more => (more.takeWhile Char.isDigit, more.dropWhile Char.isDigit)
    | _ => ([], rest)
  let offset ← offset? rest
  return ⟨hour, minute, second, microseconds fraction, offset⟩

/-- The numbers of a date, perhaps with a time. -/
def timestamp? (cs : List Char) : Option (Nat × Nat × Nat × Option TimeParts) := do
  let (year, rest) ← digits? 4 4 cs
  let (month, rest) ← digits? 1 2 (← mark? '-' rest)
  let (day, rest) ← digits? 1 2 (← mark? '-' rest)
  if rest.isEmpty then return (year, month, day, none)
  let time ← time? rest
  return (year, month, day, some time)

/-- A date or a time. A final line feed does not count. -/
def readTimestamp (text : Points) : Except Trouble Scalar :=
  let cs := text.chars
  let parts := match timestamp? cs with
    | some p => some p
    | none => if cs.getLast? == some '\n' then timestamp? cs.dropLast else none
  let made := match parts with
    | none => .error (.failed .part "'NoneType' object has no attribute 'groupdict'")
    | some (year, month, day, none) =>
      ((Date.make year month day).map Scalar.date).mapError fun e =>
        .failed .value e.message
    | some (year, month, day, some t) =>
      ((Timestamp.make year month day t.hour t.minute t.second t.micro t.offset).map
        Scalar.timestamp).mapError fun e => .failed .value e.message
  made

/-- Why a text is not plain ASCII, in words: the first run of characters that are not. -/
def notAscii? (text : Points) : Option String :=
  let isAscii (n : Nat) : Bool := n < 0x80
  let start := (text.takeWhile isAscii).length
  let run := (text.drop start).takeWhile fun n => !isAscii n
  match run with
  | [] => none
  | [n] =>
    some ("'ascii' codec can't encode character '" ++ String.ofList (Text.numbered n) ++
      "' in position " ++ toString start ++ ": ordinal not in range(128)")
  | _ =>
    some ("'ascii' codec can't encode characters in position " ++ toString start ++ "-" ++
      toString (start + run.length - 1) ++ ": ordinal not in range(128)")

/-- Bytes in base 64, for a node at a place. -/
def readBinary (place : Mark) (text : Points) : Except Trouble (List UInt8) :=
  match notAscii? text with
  | some why => .error (.bare .data ("failed to convert base64 data into ascii: " ++ why) place)
  | none =>
    (Text.base64Decode text.chars).mapError fun e =>
      .bare .data ("failed to decode base64 data: " ++ e.message) place

end Tagged

end CaseGrid.Yaml
