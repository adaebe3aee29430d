import CaseGrid.Failure.Kind
import CaseGrid.Yaml.Mark

/-
  What can be wrong with a YAML text. A trouble names what was being read and where that began,
  and what was found and where; the first place is left out where it is the second. Some tagged
  scalars break off with a failure of another kind.
-/

namespace CaseGrid.Yaml

/-- The stages of reading a text. -/
inductive Stage where
  | characters
  | tokens
  | events
  | nodes
  | data
  deriving DecidableEq, Repr

/-- The kind of trouble that a stage reports. -/
def Stage.kindName : Stage → String
  | characters => "ReaderError"
  | tokens => "ScannerError"
  | events => "ParserError"
  | nodes => "ComposerError"
  | data => "ConstructorError"

/-- The kinds of failures that the reading of a text breaks off with. -/
inductive Breakdown where
  | value
  | type
  | key
  | part
  | index
  | overflow
  | depth
  deriving DecidableEq, Repr

/-- The kind of failure that a breakdown is. -/
def Breakdown.kind : Breakdown → ErrorKind
  | value => .valueError
  | type => .typeError
  | key => .keyError
  | part => .attributeError
  | index => .indexError
  | overflow => .overflowError
  | depth => .nestedTooDeep

/-- Something wrong with a text. -/
inductive Trouble where
  /-- A character that no text may hold. -/
  | character (position : Nat) (c : Char)
  /-- Something wrong at a place, in the course of something that began at another. -/
  | found (stage : Stage) (context : Option String) (start : Option Mark) (problem : String)
    (place : Mark)
  /-- A failure of another kind. -/
  | failed (why : Breakdown) (message : String)
  deriving Repr

namespace Trouble

/-- Trouble without a context. -/
def bare (stage : Stage) (problem : String) (place : Mark) : Trouble :=
  .found stage none none problem place

/-- Trouble in the course of something. -/
def during (stage : Stage) (context : String) (start : Mark) (problem : String) (place : Mark) :
    Trouble :=
  .found stage (some context) (some start) problem place

/-- The failure of what is nested too deep to be read. -/
def tooDeep : Trouble :=
  .failed .depth "maximum recursion depth exceeded"

/-- The number of a character, in at least four hexadecimal digits. -/
def codeDigits (n : Nat) : List Char :=
  if n < 0x10000 then Text.hexDigits 4 n
  else if n < 0x100000 then Text.hexDigits 5 n
  else Text.hexDigits 6 n

/-- The trouble in words, for the text it was found in. -/
def message (source : List Char) : Trouble → String
  | character position c =>
    "unacceptable character #x" ++ String.ofList (codeDigits c.toNat) ++
      ": special characters are not allowed\n  in \"<unicode string>\", position " ++
      toString position
  | found _ context start problem place =>
    let startLines :=
      match start with
      | some m => if m.line = place.line ∧ m.column = place.column then [] else [m.describe source]
      | none => []
    "\n".intercalate (context.toList ++ startLines ++ [problem, place.describe source])
  | failed _ message => message

end Trouble

end CaseGrid.Yaml
