import CaseGrid.Text.Points
import CaseGrid.Yaml.Cursor
import CaseGrid.Yaml.Trouble

/-
  Tokens of a YAML text, and readers: functions from a cursor to an answer and the cursor after
  what was read.
-/

namespace CaseGrid.Yaml

open CaseGrid.Text (quoted)

/-- A line with instructions before a document. -/
inductive Directive where
  | version (major minor : Nat)
  | tag (handle start : String)
  | other
  deriving DecidableEq, Repr

/-- What a token is. -/
inductive Token.Kind where
  | streamStart
  | streamEnd
  | directive (d : Directive)
  | documentStart
  | documentEnd
  | blockSequenceStart
  | blockMappingStart
  | blockEnd
  | flowSequenceStart
  | flowSequenceEnd
  | flowMappingStart
  | flowMappingEnd
  | key
  | value
  | blockEntry
  | flowEntry
  | reference (name : String)
  | anchor (name : String)
  | tag (handle : Option String) (suffix : String)
  | scalar (text : Text.Points) (plain : Bool)
  deriving DecidableEq, Repr

/-- A token and where it begins and ends. -/
structure Token where
  kind : Token.Kind
  start : Mark
  stop : Mark
  deriving Repr

/-- The word or sign for a token in messages. -/
def Token.Kind.name : Token.Kind → String
  | streamStart => "<stream start>"
  | streamEnd => "<stream end>"
  | directive _ => "<directive>"
  | documentStart => "<document start>"
  | documentEnd => "<document end>"
  | blockSequenceStart => "<block sequence start>"
  | blockMappingStart => "<block mapping start>"
  | blockEnd => "<block end>"
  | flowSequenceStart => "["
  | flowSequenceEnd => "]"
  | flowMappingStart => "\x7b"
  | flowMappingEnd => "\x7d"
  | key => "?"
  | value => ":"
  | blockEntry => "-"
  | flowEntry => ","
  | reference _ => "<alias>"
  | anchor _ => "<anchor>"
  | tag _ _ => "<tag>"
  | scalar _ _ => "<scalar>"

/-- A reader of part of a text. -/
abbrev Reader (α : Type) := StateT Cursor (Except Trouble) α

namespace Reader

/-- The cursor. -/
def cursor : Reader Cursor := get

/-- The next character. -/
def head : Reader Char := do return (← get).head

/-- The present place. -/
def mark : Reader Mark := do return (← get).mark

/-- Passes some characters and answers with them. -/
def take (n : Nat) : Reader (List Char) := do
  let c ← get
  set (c.skip n)
  return c.rest.take n

/-- Passes the run of characters of a class and answers with it. -/
def takeRun (p : Char → Bool) : Reader (List Char) := do
  let c ← get
  take (c.run p).length

/-- Passes one character. -/
def advance : Reader Unit := modify Cursor.advance

/-- Passes spaces. -/
def skipSpaces : Reader Unit := modify (Cursor.skipRun (· == ' '))

/-- Passes a line break, if there is one, and answers with what it counts as. -/
def lineBreak : Reader (List Char) := do
  let (br, c) := (← get).lineBreak
  set c
  return br

/-- Trouble at the cursor in the course of something. -/
def troubleAt {α : Type} (context : String) (start : Mark) (problem : String) : Reader α := do
  throw (Trouble.during .tokens context start problem (← mark))

/-- Trouble at the cursor, where something else than the character there was expected. -/
def unexpected {α : Type} (context : String) (start : Mark) (expected : String) (ch : Char) :
    Reader α :=
  troubleAt context start ("expected " ++ expected ++ ", but found " ++ quoted (String.singleton ch))

end Reader

end CaseGrid.Yaml
