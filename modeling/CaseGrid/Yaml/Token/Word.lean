import CaseGrid.Number.Limit
import CaseGrid.Yaml.Token.Basic
import CaseGrid.Text.Digit

/-
  Words of a YAML text: names of anchors and aliases, tags with their handles and escapes, and
  the directives before a document.
-/

namespace CaseGrid.Yaml

open CaseGrid.Text (quoted)

/-- A character of a name. -/
def isNameChar (c : Char) : Bool :=
  c.isAlphanum || c == '-' || c == '_'

/-- A character of a tag. -/
def isTagChar (c : Char) : Bool :=
  isNameChar c || "-;/?:@&=+$,_.!~*'()[]%".toList.contains c

/-- An ASCII hexadecimal digit. -/
def isHexDigit (c : Char) : Bool :=
  c.isDigit || ('a' ≤ c && c ≤ 'f') || ('A' ≤ c && c ≤ 'F')

/-- The value of ASCII hexadecimal digits. -/
def hexValue (cs : List Char) : Nat :=
  cs.foldl (fun n c => n * 16 + (Text.hexValue? c).getD 0) 0

/-- Why bytes are no UTF-8 text, in words. -/
structure Utf8Error where
  bytes : List UInt8
  /-- The first byte that is wrong, and the number of bytes from there on that are. -/
  position : Nat
  length : Nat
  reason : String

/-- The error in words. -/
def Utf8Error.message (e : Utf8Error) : String :=
  if e.length = 1 then
    "'utf-8' codec can't decode byte 0x" ++
      String.ofList (Text.hexDigits 2 ((e.bytes[e.position]?.getD 0).toNat)) ++ " in position " ++
      toString e.position ++ ": " ++ e.reason
  else
    "'utf-8' codec can't decode bytes in position " ++ toString e.position ++ "-" ++
      toString (e.position + e.length - 1) ++ ": " ++ e.reason

/-- The bytes that may follow the first byte of a sequence: how many, and the range of the first
of them, which keeps out spare forms, surrogates and numbers past the last character. -/
def utf8Follow? (b : Nat) : Option (Nat × Nat × Nat) :=
  if 0xC2 ≤ b ∧ b ≤ 0xDF then some (1, 0x80, 0xBF)
  else if b = 0xE0 then some (2, 0xA0, 0xBF)
  else if b = 0xED then some (2, 0x80, 0x9F)
  else if 0xE1 ≤ b ∧ b ≤ 0xEF then some (2, 0x80, 0xBF)
  else if b = 0xF0 then some (3, 0x90, 0xBF)
  else if 0xF1 ≤ b ∧ b ≤ 0xF3 then some (3, 0x80, 0xBF)
  else if b = 0xF4 then some (3, 0x80, 0x8F)
  else none

/-- The bits of a first byte that belong to the character. -/
def utf8Lead (b count : Nat) : Nat :=
  if count = 1 then b % 0x20 else if count = 2 then b % 0x10 else b % 8

/-- A sequence under way: the bytes still to come, the range of the next one, the bits so far,
and the number of bytes read. -/
structure Utf8Pending where
  remaining : Nat
  low : Nat
  high : Nat
  bits : Nat
  read : Nat

/-- The characters of bytes, from a position on, with a sequence under way. -/
def utf8From (all : List UInt8) : Nat → Option Utf8Pending → List UInt8 →
    Except Utf8Error (List Char)
  | _, none, [] => .ok []
  | position, some p, [] =>
    .error ⟨all, position - p.read, p.read, "unexpected end of data"⟩
  | position, none, b :: bs =>
    let n := b.toNat
    if n < 0x80 then (utf8From all (position + 1) none bs).map (Char.ofNat n :: ·)
    else
      match utf8Follow? n with
      | some (count, low, high) =>
        utf8From all (position + 1) (some ⟨count, low, high, utf8Lead n count, 1⟩) bs
      | none => .error ⟨all, position, 1, "invalid start byte"⟩
  | position, some p, b :: bs =>
    let n := b.toNat
    if p.low ≤ n ∧ n ≤ p.high then
      let bits := p.bits * 0x40 + n % 0x40
      if p.remaining = 1 then
        (utf8From all (position + 1) none bs).map (Char.ofNat bits :: ·)
      else
        utf8From all (position + 1) (some ⟨p.remaining - 1, 0x80, 0xBF, bits, p.read + 1⟩) bs
    else .error ⟨all, position - p.read, p.read, "invalid continuation byte"⟩

/-- The characters of bytes. -/
def utf8Decode (bytes : List UInt8) : Except Utf8Error (List Char) :=
  utf8From bytes 0 none bytes

namespace Reader

/-- A name, not empty. -/
def name (context : String) (start : Mark) : Reader String := do
  let cs ← takeRun isNameChar
  if cs.isEmpty then
    unexpected context start "alphabetic or numeric character" (← head)
  return String.ofList cs

/-- An alias or an anchor. -/
def anchor : Reader Token := do
  let start ← mark
  let isAlias := (← head) == '*'
  let context := if isAlias then "while scanning an alias" else "while scanning an anchor"
  advance
  let text ← name context start
  let ch ← head
  if !(isBlankOrEnd ch || "?:,]\x7d%@`".toList.contains ch) then
    unexpected context start "alphabetic or numeric character" ch
  return ⟨if isAlias then .reference text else .anchor text, start, ← mark⟩

/-- The bytes of percent escapes, each of two hexadecimal digits. -/
def escapedBytes (what : String) (start : Mark) : Nat → Reader (List UInt8)
  | 0 => return []
  | fuel + 1 => do
    if (← head) != '%' then return []
    advance
    let c ← cursor
    let bad := [c.peek 0, c.peek 1].find? fun ch => !isHexDigit ch
    match bad with
    | some ch =>
      unexpected ("while scanning a " ++ what) start
        "URI escape sequence of 2 hexadecimal numbers" ch
    | none =>
      let digits ← take 2
      let bytes ← escapedBytes what start fuel
      return UInt8.ofNat (hexValue digits) :: bytes

/-- The characters of percent escapes. -/
def escapedChars (what : String) (start : Mark) : Reader (List Char) := do
  let place ← mark
  let bytes ← escapedBytes what start (← cursor).rest.length
  match utf8Decode bytes with
  | .ok cs => return cs
  | .error e =>
    throw (Trouble.during .tokens ("while scanning a " ++ what) start e.message place)

/-- The characters of a tag, escapes resolved. -/
def tagChars (what : String) (start : Mark) : Nat → Reader (List Char)
  | 0 => return []
  | fuel + 1 => do
    let plain ← takeRun fun c => isTagChar c && c != '%'
    if (← head) == '%' then
      let escaped ← escapedChars what start
      return plain ++ escaped ++ (← tagChars what start fuel)
    return plain

/-- The text of a tag, not empty. An escape of no characters counts. -/
def tagText (what : String) (start : Mark) : Reader String := do
  let c ← cursor
  if (c.run isTagChar).isEmpty then
    unexpected ("while parsing a " ++ what) start "URI" c.head
  return String.ofList (← tagChars what start (c.rest.length + 1))

/-- The handle of a tag: a mark, or a name between two of them. -/
def tagHandle (what : String) (start : Mark) : Reader String := do
  let context := "while scanning a " ++ what
  let c ← cursor
  if c.head != '!' then
    unexpected context start "'!'" c.head
  if c.peek 1 == ' ' then
    return String.ofList (← take 1)
  let length := 1 + (c.advance.run isNameChar).length
  let ch := c.peek length
  if ch != '!' then
    let _ ← take length
    unexpected context start "'!'" ch
  return String.ofList (← take (length + 1))

/-- The handle and the rest of a tag. -/
def tagParts (start : Mark) : Reader (Option String × String) := do
  let c ← cursor
  let ch := c.peek 1
  if ch == '<' then
    let _ ← take 2
    let suffix ← tagText "tag" start
    if (← head) != '>' then
      unexpected "while parsing a tag" start "'>'" (← head)
    advance
    return (none, suffix)
  else if isBlankOrEnd ch then
    advance
    return (none, "!")
  else
    let ahead := c.advance.rest.takeWhile fun x => !isSpaceOrEnd x
    if ahead.contains '!' then
      let handle ← tagHandle "tag" start
      return (some handle, ← tagText "tag" start)
    else
      advance
      return (some "!", ← tagText "tag" start)

/-- A tag. -/
def tag : Reader Token := do
  let start ← mark
  let (handle, suffix) ← tagParts start
  let ch ← head
  if !isSpaceOrEnd ch then
    unexpected "while scanning a tag" start "' '" ch
  return ⟨.tag handle suffix, start, ← mark⟩

/-- A number of a version. -/
def versionNumber (start : Mark) : Reader Nat := do
  let digits ← takeRun Char.isDigit
  if digits.isEmpty then
    unexpected "while scanning a directive" start "a digit" (← head)
  if digits.length > Number.digitLimit then
    throw (.failed .value (Number.readingRefused digits.length))
  return digits.foldl (fun n c => n * 10 + (c.toNat - 0x30)) 0

/-- The version of a directive. -/
def version (start : Mark) : Reader Directive := do
  skipSpaces
  let major ← versionNumber start
  if (← head) != '.' then
    unexpected "while scanning a directive" start "a digit or '.'" (← head)
  advance
  let minor ← versionNumber start
  if !isSpaceOrEnd (← head) then
    unexpected "while scanning a directive" start "a digit or ' '" (← head)
  return .version major minor

/-- The handle and the beginning of tags that a directive declares. -/
def tagDeclaration (start : Mark) : Reader Directive := do
  skipSpaces
  let handle ← tagHandle "directive" start
  if (← head) != ' ' then
    unexpected "while scanning a directive" start "' '" (← head)
  skipSpaces
  let text ← tagText "directive" start
  if !isSpaceOrEnd (← head) then
    unexpected "while scanning a directive" start "' '" (← head)
  return .tag handle text

/-- The rest of a line that may only hold a comment. -/
def endOfLine (context : String) (start : Mark) : Reader Unit := do
  skipSpaces
  modify Cursor.skipComment
  let ch ← head
  if !isBreakOrEnd ch then
    unexpected context start "a comment or a line break" ch
  let _ ← lineBreak

/-- A directive. -/
def directive : Reader Token := do
  let start ← mark
  advance
  let text ← name "while scanning a directive" start
  if !isSpaceOrEnd (← head) then
    unexpected "while scanning a directive" start "alphabetic or numeric character" (← head)
  let d ← if text = "YAML" then version start
    else if text = "TAG" then tagDeclaration start
    else pure .other
  let stop ← mark
  if d = .other then
    let _ ← takeRun fun c => !isBreakOrEnd c
  endOfLine "while scanning a directive" start
  return ⟨.directive d, start, stop⟩

end Reader

end CaseGrid.Yaml
