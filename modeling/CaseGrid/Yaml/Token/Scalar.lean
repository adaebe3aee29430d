import CaseGrid.Yaml.Token.Word

/-
  Scalars of a YAML text: plain ones, quoted ones, and blocks that keep or fold their lines. A
  line break between two lines of a folded text becomes a space; of several, the first is left
  out and the others stay.
-/

namespace CaseGrid.Yaml

open CaseGrid.Text (Points quoted)

/-- What a folded line break and the empty lines after it become. -/
def folded (first : List Char) (more : List Char) : List Char :=
  if first != ['\n'] then first ++ more
  else if more.isEmpty then [' ']
  else more

/-- What an escape of one letter stands for. -/
def escapeOf? (c : Char) : Option Char :=
  match c with
  | '0' => some '\x00'
  | 'a' => some '\x07'
  | 'b' => some '\x08'
  | 't' => some '\t'
  | '\t' => some '\t'
  | 'n' => some '\n'
  | 'v' => some '\x0b'
  | 'f' => some '\x0c'
  | 'r' => some '\r'
  | 'e' => some '\x1b'
  | ' ' => some ' '
  | '"' => some '"'
  | '\\' => some '\\'
  | '/' => some '/'
  | 'N' => some '\u0085'
  | '_' => some '\u00a0'
  | 'L' => some '\u2028'
  | 'P' => some '\u2029'
  | _ => none

/-- The number of hexadecimal digits after the letter of an escape. -/
def escapeLength? (c : Char) : Option Nat :=
  if c == 'x' then some 2 else if c == 'u' then some 4 else if c == 'U' then some 8 else none

/-- The number of an escape as a code point; halves of surrogate pairs are allowed. -/
def pointOfCode (n : Nat) : Except Trouble Nat :=
  if n < 0x110000 then .ok n
  else if n < 0x80000000 then
    .error (.failed .value "chr() arg not in range(0x110000)")
  else .error (.failed .overflow "Python int too large to convert to C int")

namespace Reader

/-- The start of what a quoted scalar is in messages. -/
def quotedContext : String := "while scanning a quoted scalar"

def doubleContext : String := "while scanning a double-quoted scalar"

/-- The empty lines after a line break in a quoted scalar. -/
def quotedBreaks (start : Mark) : Nat → Reader (List Char)
  | 0 => return []
  | fuel + 1 => do
    if (← cursor).atSeparator then
      troubleAt quotedContext start "found unexpected document separator"
    let _ ← takeRun fun c => c == ' ' || c == '\t'
    if isBreak (← head) then
      let br ← lineBreak
      return br ++ (← quotedBreaks start fuel)
    return []

/-- The blanks inside a quoted scalar, a line break among them folded. -/
def quotedSpaces (start : Mark) : Reader (List Char) := do
  let blanks ← takeRun fun c => c == ' ' || c == '\t'
  let ch ← head
  if ch == endOfText then
    troubleAt quotedContext start "found unexpected end of stream"
  else if isBreak ch then
    let first ← lineBreak
    let more ← quotedBreaks start (← cursor).rest.length
    return folded first more
  else return blanks

/-- An escape after its backslash. -/
def escape (start : Mark) : Reader Points := do
  let ch ← head
  match escapeOf? ch, escapeLength? ch with
  | some c, _ =>
    advance
    return [c.toNat]
  | none, some length =>
    advance
    let ahead := (List.range length).map (← cursor).peek
    match ahead.find? fun c => !isHexDigit c with
    | some bad =>
      unexpected doubleContext start
        ("escape sequence of " ++ toString length ++ " hexadecimal numbers") bad
    | none =>
      let n ← StateT.lift (pointOfCode (hexValue ahead))
      let _ ← take length
      return [n]
  | none, none =>
    if isBreak ch then
      let _ ← lineBreak
      return .ofChars (← quotedBreaks start (← cursor).rest.length)
    else
      troubleAt doubleContext start
        ("found unknown escape character " ++ quoted (String.singleton ch))

/-- The characters of a quoted scalar up to a blank or its end. -/
def quotedPart (isDouble : Bool) (start : Mark) : Nat → Reader Points
  | 0 => return []
  | fuel + 1 => do
    let run ← takeRun fun c => !(c == '\'' || c == '"' || c == '\\' || isBlankOrEnd c)
    let plain := Points.ofChars run
    let ch ← head
    if !isDouble && ch == '\'' && (← cursor).peek 1 == '\'' then
      let _ ← take 2
      return plain ++ '\''.toNat :: (← quotedPart isDouble start fuel)
    else if (isDouble && ch == '\'') || (!isDouble && (ch == '"' || ch == '\\')) then
      advance
      return plain ++ ch.toNat :: (← quotedPart isDouble start fuel)
    else if isDouble && ch == '\\' then
      advance
      let escaped ← escape start
      return plain ++ escaped ++ (← quotedPart isDouble start fuel)
    else return plain

/-- The parts of a quoted scalar and the blanks between them, up to its closing mark. -/
def quotedRest (quote : Char) (start : Mark) : Nat → Reader Points
  | 0 => return []
  | fuel + 1 => do
    let part ← quotedPart (quote == '"') start ((← cursor).rest.length + 1)
    if (← head) == quote then return part
    let spaces ← quotedSpaces start
    return part ++ .ofChars spaces ++ (← quotedRest quote start fuel)

/-- A quoted scalar. -/
def quotedScalar : Reader Token := do
  let start ← mark
  let quote ← head
  advance
  let text ← quotedRest quote start ((← cursor).rest.length + 1)
  advance
  return ⟨.scalar text false, start, ← mark⟩

/-- How the end of a block is kept: the last line break only, none, or all of them. -/
inductive Chomping where
  | clip
  | strip
  | keep
  deriving DecidableEq

def blockContext : String := "while scanning a block scalar"

/-- The sign for the end of a block, if there is one. -/
def chomping? : Reader (Option Chomping) := do
  let ch ← head
  if ch == '+' then
    advance
    return some .keep
  else if ch == '-' then
    advance
    return some .strip
  else return none

/-- The digit for the indentation of a block, if there is one. -/
def increment? (start : Mark) : Reader (Option Nat) := do
  let ch ← head
  if ch == '0' then
    troubleAt blockContext start
      "expected indentation indicator in the range 1-9, but found 0"
  else if ch.isDigit then
    advance
    return some (ch.toNat - 0x30)
  else return none

/-- The signs after the mark of a block, in either order. -/
def blockSigns (start : Mark) : Reader (Chomping × Option Nat) := do
  let signs ← match ← chomping? with
    | some c => do
      let n ← increment? start
      pure (c, n)
    | none => do
      match ← increment? start with
      | some n => do
        let c ← chomping?
        pure (c.getD .clip, some n)
      | none => pure (.clip, none)
  let ch ← head
  if !isSpaceOrEnd ch then
    unexpected blockContext start "chomping or indentation indicators" ch
  return signs

/-- The empty lines before a block whose indentation is not given, and the greatest number of
spaces among them. -/
def leadingLines : Nat → Nat → Reader (List Char × Nat)
  | 0, indent => return ([], indent)
  | fuel + 1, indent => do
    let ch ← head
    if ch == ' ' then
      advance
      leadingLines fuel (max indent (← mark).column)
    else if isBreak ch then
      let br ← lineBreak
      let (more, greatest) ← leadingLines fuel indent
      return (br ++ more, greatest)
    else return ([], indent)

/-- Passes spaces up to a column. -/
def skipToColumn (column : Nat) : Reader Unit := do
  let c ← cursor
  let spaces := min (c.run (· == ' ')).length (column - c.mark.column)
  let _ ← take spaces

/-- The empty lines of a block at an indentation. -/
def emptyLines (indent : Nat) : Nat → Reader (List Char)
  | 0 => return []
  | fuel + 1 => do
    skipToColumn indent
    if isBreak (← head) then
      let br ← lineBreak
      return br ++ (← emptyLines indent fuel)
    return []

/-- Whether a line of the block at an indentation begins here. -/
def atBlockLine (indent : Nat) : Reader Bool := do
  let c ← cursor
  return c.mark.column == indent && c.head != endOfText

/-- The lines of a block from `breaks` on; at the end the last line break and the empty lines
after it are kept as the sign says. -/
def blockLines (fold : Bool) (indent : Nat) (chomping : Chomping) :
    Nat → List Char → Reader (List Char)
  | 0, _ => return []
  | fuel + 1, breaks => do
    let opening ← head
    let line ← takeRun fun c => !isBreakOrEnd c
    let br ← lineBreak
    let more ← emptyLines indent ((← cursor).rest.length + 1)
    if ← atBlockLine indent then
      let next ← head
      let isText (c : Char) : Bool := c != ' ' && c != '\t'
      let joint :=
        if fold && br == ['\n'] && isText opening && isText next then
          if more.isEmpty then [' '] else []
        else br
      return breaks ++ line ++ joint ++ (← blockLines fold indent chomping fuel more)
    else
      let ending := if chomping = .strip then [] else br
      let trailing := if chomping = .keep then more else []
      return breaks ++ line ++ ending ++ trailing

/-- A block scalar, given the indentation of the block around it. -/
def blockScalar (outer : Int) : Reader Token := do
  let start ← mark
  let fold := (← head) == '>'
  advance
  let (chomping, increment) ← blockSigns start
  endOfLine blockContext start
  let least := (max 1 (outer + 1)).toNat
  let fuel := (← cursor).rest.length + 1
  let (breaks, indent) ← match increment with
    | none => do
      let (breaks, greatest) ← leadingLines fuel 0
      pure (breaks, max least greatest)
    | some n => do
      let indent := least + n - 1
      let breaks ← emptyLines indent fuel
      pure (breaks, indent)
  let text ←
    if ← atBlockLine indent then blockLines fold indent chomping fuel breaks
    else pure (if chomping = .keep then breaks else [])
  return ⟨.scalar (.ofChars text) false, start, ← mark⟩

/-- Whether a plain scalar ends before a character, given the one after it. -/
def endsPlain (inFlow : Bool) (ch next : Char) : Bool :=
  isBlankOrEnd ch ||
    (ch == ':' && (isBlankOrEnd next || (inFlow && ",[]\x7b\x7d".toList.contains next))) ||
    (inFlow && ",?[]\x7b\x7d".toList.contains ch)

/-- The characters up to where a plain scalar ends or has a blank. -/
def plainRun (inFlow : Bool) : List Char → List Char
  | [] => []
  | ch :: rest =>
    if endsPlain inFlow ch (rest.head?.getD endOfText) then []
    else ch :: plainRun inFlow rest

/-- The empty lines inside a plain scalar, or nothing if a document ends there. -/
def plainBreaks : Nat → Reader (Option (List Char))
  | 0 => return some []
  | fuel + 1 => do
    let ch ← head
    if ch == ' ' then
      advance
      plainBreaks fuel
    else if isBreak ch then
      let br ← lineBreak
      if (← cursor).atSeparator then return none
      return (← plainBreaks fuel).map (br ++ ·)
    else return some []

/-- The blanks inside a plain scalar, and whether a line ended; nothing if a document ends
there. -/
def plainSpaces : Reader (Option (List Char) × Bool) := do
  let blanks ← takeRun (· == ' ')
  if isBreak (← head) then
    let first ← lineBreak
    if (← cursor).atSeparator then return (none, true)
    let more ← plainBreaks ((← cursor).rest.length + 1)
    return (more.map (folded first), true)
  else return (some blanks, false)

/-- The text of a plain scalar after `spaces`, where it ends, and whether its last blanks held
the end of a line. -/
def plainParts (inFlow : Bool) (indent : Nat) :
    Nat → List Char → Mark → Bool → Reader (List Char × Mark × Bool)
  | 0, _, stop, lineEnded => return ([], stop, lineEnded)
  | fuel + 1, spaces, stop, lineEnded => do
    let c ← cursor
    if c.head == '#' then return ([], stop, lineEnded)
    let part := plainRun inFlow c.rest
    if part.isEmpty then return ([], stop, lineEnded)
    let _ ← take part.length
    let stop ← mark
    let (between, ended) ← plainSpaces
    match between with
    | none => return (spaces ++ part, stop, ended)
    | some between =>
      let c ← cursor
      if between.isEmpty || c.head == '#' || (!inFlow && c.mark.column < indent) then
        return (spaces ++ part, stop, ended)
      let (text, stop, ended) ← plainParts inFlow indent fuel between stop ended
      return (spaces ++ part ++ text, stop, ended)

/-- A plain scalar, given the indentation of the block around it, and whether the end of a line
was passed after it. -/
def plainScalar (inFlow : Bool) (outer : Int) : Reader (Token × Bool) := do
  let start ← mark
  let fuel := (← cursor).rest.length + 1
  let (text, stop, lineEnded) ← plainParts inFlow (outer + 1).toNat fuel [] start false
  return (⟨.scalar (.ofChars text) true, start, stop⟩, lineEnded)

end Reader

end CaseGrid.Yaml
