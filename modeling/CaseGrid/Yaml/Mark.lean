import CaseGrid.Text.Quoted

/-
  Places in a YAML text. A place is shown with the part of its line around it, cut to 37
  characters on either side with dots at a cut end, and a caret below.
-/

namespace CaseGrid.Yaml

/-- A place in a text, counted from zero. -/
structure Mark where
  index : Nat
  line : Nat
  column : Nat
  deriving DecidableEq, Repr, Inhabited

/-- A character that ends a line. -/
def isBreak (c : Char) : Bool :=
  c == '\n' || c == '\r' || c == '\u0085' || c == '\u2028' || c == '\u2029'

/-- The character that stands for the end of the text. -/
def endOfText : Char := '\x00'

/-- The end of a line or of the text. -/
def isBreakOrEnd (c : Char) : Bool :=
  c == endOfText || isBreak c

/-- A space, or the end of a line or of the text. -/
def isSpaceOrEnd (c : Char) : Bool :=
  c == ' ' || isBreakOrEnd c

/-- A space or a tab, or the end of a line or of the text. -/
def isBlankOrEnd (c : Char) : Bool :=
  c == '\t' || isSpaceOrEnd c

namespace Mark

/-- The longest run of characters that is shown on one side, and what is kept of a longer one. -/
def shown : Nat := 36
def kept : Nat := 32

/-- A run of characters, cut if it is too long; the sign tells whether it was. -/
def cut (run : List Char) : List Char × String :=
  if run.length > shown then (run.take kept, " ... ") else (run, "")

/-- The line around a place, and a caret under it. -/
def snippet (source : List Char) (m : Mark) : String :=
  let (before, head) := cut ((source.take m.index).reverse.takeWhile fun c => !isBreakOrEnd c)
  let (after, tail) := cut ((source.drop m.index).takeWhile fun c => !isBreakOrEnd c)
  let indent := String.ofList (List.replicate 4 ' ')
  let under := List.replicate (4 + before.length + head.length) ' '
  indent ++ head ++ String.ofList (before.reverse ++ after) ++ tail ++ "\n" ++
    String.ofList under ++ "^"

/-- A place in words: its line and column, and the line itself. -/
def describe (source : List Char) (m : Mark) : String :=
  "  in \"<unicode string>\", line " ++ toString (m.line + 1) ++ ", column " ++
    toString (m.column + 1) ++ ":\n" ++ m.snippet source

end Mark

end CaseGrid.Yaml
