import CaseGrid.Yaml.Mark

/-
  A cursor in a YAML text: what is still to be read, and the place. Past the last character
  every look ahead finds the end of the text.
-/

namespace CaseGrid.Yaml

/-- The rest of a text and the place where it begins. -/
structure Cursor where
  rest : List Char
  mark : Mark
  deriving Repr

namespace Cursor

/-- The beginning of a text. -/
def start (source : List Char) : Cursor :=
  ⟨source, ⟨0, 0, 0⟩⟩

/-- The character some way ahead. -/
def peek (c : Cursor) (ahead : Nat) : Char :=
  c.rest[ahead]?.getD endOfText

/-- The next character. -/
def head (c : Cursor) : Char :=
  c.rest.head?.getD endOfText

/-- The place after a character, given the one that follows. A line ends with a line break, a
carriage return before a line feed not counted; a byte order mark takes no column. -/
def step (m : Mark) (ch next : Char) : Mark :=
  if isBreak ch && !(ch == '\r' && next == '\n') then ⟨m.index + 1, m.line + 1, 0⟩
  else if ch == '\ufeff' then ⟨m.index + 1, m.line, m.column⟩
  else ⟨m.index + 1, m.line, m.column + 1⟩

/-- The cursor one character further. -/
def advance (c : Cursor) : Cursor :=
  match c.rest with
  | [] => ⟨[], ⟨c.mark.index + 1, c.mark.line, c.mark.column + 1⟩⟩
  | ch :: rest => ⟨rest, step c.mark ch (rest.head?.getD endOfText)⟩

/-- The cursor some characters further. -/
def skip : Nat → Cursor → Cursor
  | 0, c => c
  | n + 1, c => skip n c.advance

/-- The run of characters of a class ahead. -/
def run (p : Char → Bool) (c : Cursor) : List Char :=
  c.rest.takeWhile p

/-- The cursor after the run of characters of a class. -/
def skipRun (p : Char → Bool) (c : Cursor) : Cursor :=
  c.skip (c.run p).length

/-- Passes a line break, if there is one; all kinds count as a line feed except the two
separators of Unicode, which count as themselves. -/
def lineBreak (c : Cursor) : List Char × Cursor :=
  let ch := c.head
  if ch == '\r' && c.peek 1 == '\n' then (['\n'], c.skip 2)
  else if ch == '\r' || ch == '\n' || ch == '\u0085' then (['\n'], c.advance)
  else if ch == '\u2028' || ch == '\u2029' then ([ch], c.advance)
  else ([], c)

/-- Passes a comment up to the end of its line, if there is one. -/
def skipComment (c : Cursor) : Cursor :=
  if c.head == '#' then c.skipRun fun ch => !isBreakOrEnd ch else c

/-- Whether three equal marks and a blank are ahead. -/
def atMarks (ch : Char) (c : Cursor) : Bool :=
  c.peek 0 == ch && c.peek 1 == ch && c.peek 2 == ch && isBlankOrEnd (c.peek 3)

/-- Whether the text of a document is parted from the next here. -/
def atSeparator (c : Cursor) : Bool :=
  c.atMarks '-' || c.atMarks '.'

end Cursor

end CaseGrid.Yaml
