import CaseGrid.Failure.Kind
import CaseGrid.Text.Split
import CaseGrid.Value.Items

/-
  Failures about a place. Some kinds of failure tell where something is wrong: at an extent of
  a text or of bytes that cannot be converted, or in a line of a file. They take particular
  arguments, refuse others and have texts of their own. A group of failures takes a list of
  failures, which no value is, so that it is always refused.
-/

namespace CaseGrid

namespace Failure

/-- What is wrong when an argument in a place is no text. -/
def checkText (place : String) : Value → Except Fault Unit
  | .null => .error (.argumentNotText place "None")
  | v => if v.isTextual then .ok () else .error (.argumentNotText place v.kindName)

/-- Refuses what is no offset. -/
def checkOffset : Value → Except Fault Unit
  | .scalar s =>
    match s.whole? with
    | some n => if Value.fitsIndex n then .ok () else .error .offsetTooWide
    | none => .error (.notCount s.kindName)
  | v => .error (.notCount v.kindName)

/-- The code points of a text. -/
def pointsOf : Value → Text.Points
  | .text s => .ofString s
  | .scalar (.broken b) => b.points
  | _ => []

/-- The offset that an argument is. -/
def offsetOf : Value → Int
  | .scalar s => s.whole?.getD 0
  | _ => 0

/-- Refuses the arguments of a text that an encoding cannot hold. -/
def checkEncoding : List Value → Except Fault Unit
  | [encoding, text, start, stop, reason] => do
    checkText "argument 1" encoding
    checkText "argument 2" text
    checkOffset start
    checkOffset stop
    checkText "argument 5" reason
  | vs => .error (.argumentCount "exactly 5" vs.length)

/-- Refuses the arguments of bytes that are no text in an encoding. -/
def checkDecoding : List Value → Except Fault Unit
  | [encoding, bytes, start, stop, reason] => do
    checkText "argument 1" encoding
    checkOffset start
    checkOffset stop
    checkText "argument 5" reason
    match bytes with
    | .bytes _ => return ()
    | v => throw (.notBytes v.kindName)
  | vs => .error (.argumentCount "exactly 5" vs.length)

/-- Refuses the arguments of a text that a table does not translate. -/
def checkTranslating : List Value → Except Fault Unit
  | [text, start, stop, reason] => do
    checkText "argument 1" text
    checkOffset start
    checkOffset stop
    checkText "argument 4" reason
  | vs => .error (.argumentCount "exactly 4" vs.length)

/-- Refuses the second of two arguments unless it tells file, line, column and source. -/
def checkReading : List Value → Except Fault Unit
  | [_, place] => do
    let parts ← place.items
    if parts.length < 4 then throw (.argumentCount "at least 4" parts.length)
    if 6 < parts.length then throw (.argumentCount "at most 6" parts.length)
    if parts.length = 5 then throw .endMissing
  | _ => .ok ()

/-- The place of the title of a group. -/
def groupPlace : String := "BaseExceptionGroup.__new__() argument 1"

/-- What is wrong with the arguments of a group. -/
def groupFault : List Value → Fault
  | [.null, _] => .argumentNotText groupPlace "None"
  | [title, members] =>
    if !title.isTextual then .argumentNotText groupPlace title.kindName
    else
      match members with
      | .map _ | .set _ => .membersNotListed
      | v =>
        match v.items? with
        | none => .membersNotListed
        | some [] => .noMembers
        | some _ => .notMember
  | vs => .groupArguments vs.length

/-- Refuses the arguments that a kind does not take. -/
def checkPlace (kind : ErrorKind) (arguments : List Value) : Except Fault Unit :=
  if kind.isA .encoding then checkEncoding arguments
  else if kind.isA .decoding then checkDecoding arguments
  else if kind.isA .translating then checkTranslating arguments
  else if kind.isA .reading then checkReading arguments
  else if kind.isA .group then .error (groupFault arguments)
  else .ok ()

/-- The item of an extent that holds no other. -/
def only? {α : Type} (items : List α) (start stop : Int) : Option α :=
  if stop = start + 1 ∧ 0 ≤ start then items[start.toNat]? else none

/-- The offset before another one; before the least comes the greatest. -/
def offsetBefore (n : Int) : Int :=
  if n = -(Value.greatestLength : Int) - 1 then Value.greatestLength else n - 1

/-- An extent in words; `one` tells what is at the only position, `many` what is at several. -/
def extentText {α : Type} (one : α → String) (many : String) (items : List α)
    (start stop : Int) : String :=
  match only? items start stop with
  | some x => one x ++ " in position " ++ toString start
  | none => many ++ " in position " ++ toString start ++ "-" ++ toString (offsetBefore stop)

/-- An extent of a text in words. The only character of an extent must not stand before the text. -/
def characterExtent (text start stop : Value) : Except Fault String :=
  if offsetOf start < 0 ∧ offsetOf stop = offsetOf start + 1 then .error .characterBeforeText
  else .ok (extentText (fun n => "character '" ++ String.ofList (Text.numbered n) ++ "'")
    "characters" (pointsOf text) (offsetOf start) (offsetOf stop))

/-- An extent of bytes in words. -/
def byteExtent (bytes : List UInt8) (start stop : Value) : String :=
  extentText (fun b => "byte 0x" ++ String.ofList (Text.hexDigits 2 b.toNat)) "bytes"
    bytes (offsetOf start) (offsetOf stop)

/-- What is shown of a path: what follows its last slash. -/
def shownFile (path : String) : String :=
  (Text.split "/" path).getLastD path

/-- The number that is shown of a line, which is -1 for one beyond all lines. -/
def shownLine (n : Int) : String :=
  toString (if Value.fitsIndex n then n else -1)

/-- The file and the line in brackets, as far as they are known. -/
def fileAndLine (file line : Value) : String :=
  let parts :=
    (if file.isTextual then [shownFile file.label] else []) ++
      (match line with
        | .int n => ["line " ++ shownLine n]
        | _ => [])
  if parts.isEmpty then "" else " (" ++ ", ".intercalate parts ++ ")"

/-- The text of a failure to read a file: its message, and the place if one is given. -/
def readingText : List Value → Except Fault String
  | [] => Value.null.shown
  | [message, place] =>
    match place.items? with
    | some (file :: line :: _) => message.shown.map (· ++ fileAndLine file line)
    | _ => message.shown
  | message :: _ => message.shown

/-- The text of a failure to convert an extent with an encoding, for a reason. -/
def codecText (encoding reason : Value) (what extent : String) : Except Fault String := do
  let why ← reason.shown
  let name ← encoding.shown
  return "'" ++ name ++ "' codec can't " ++ what ++ " " ++ extent ++ ": " ++ why

/-- The text that a kind of failure about a place forms of arguments it takes. -/
def placeText? (kind : ErrorKind) (arguments : List Value) : Option (Except Fault String) :=
  if kind.isA .reading then some (readingText arguments)
  else
    match arguments with
    | [encoding, .bytes bytes, start, stop, reason] =>
      if kind.isA .decoding then
        some (codecText encoding reason "decode" (byteExtent bytes start stop))
      else none
    | [encoding, text, start, stop, reason] =>
      if kind.isA .encoding then
        some (characterExtent text start stop >>= codecText encoding reason "encode")
      else none
    | [text, start, stop, reason] =>
      if kind.isA .translating then some do
        let why ← reason.shown
        let extent ← characterExtent text start stop
        return "can't translate " ++ extent ++ ": " ++ why
      else none
    | _ => none

example : (readingText [.text "m", .list [.text "a/b", .int 3, .null, .null]]).toOption =
    some "m (b, line 3)" := by
  decide +kernel
example : (characterExtent (.text "aé") (.int 1) (.int 2)).toOption =
    some "character '\\xe9' in position 1" := by
  decide +kernel
example : byteExtent [0xFF, 0] (.int 0) (.int 2) = "bytes in position 0-1" := by decide +kernel

end Failure

end CaseGrid
