import CaseGrid.Text.IdentifierTable
import CaseGrid.Text.Ranges

/-
  Identifiers: a letter or low line, then letters, digits, marks and low lines, in any script.
  A reserved word has the form of an identifier but names nothing.
-/

namespace CaseGrid.Text

/-- A character that may open an identifier. -/
def isIdentifierStart (c : Char) : Bool :=
  if c.toNat < 0x80 then c.isAlpha || c == '_' else inRanges identifierStartRanges c.toNat

/-- A character that may stand anywhere but first in an identifier. -/
def isIdentifierRest (c : Char) : Bool :=
  if c.toNat < 0x80 then c.isAlphanum || c == '_'
  else inRanges identifierStartRanges c.toNat || inRanges identifierContinueRanges c.toNat

/-- Whether the characters spell an identifier. -/
def isIdentifierChars : List Char → Bool
  | [] => false
  | c :: cs => isIdentifierStart c && cs.all isIdentifierRest

/-- Whether a text is an identifier; reserved words are. -/
def isIdentifier (s : String) : Bool :=
  isIdentifierChars s.toList

/-- The words that no argument may be called. -/
def reservedWords : List String :=
  ["False", "None", "True", "and", "as", "assert", "async", "await", "break", "class", "continue",
    "def", "del", "elif", "else", "except", "finally", "for", "from", "global", "if", "import",
    "in", "is", "lambda", "nonlocal", "not", "or", "pass", "raise", "return", "try", "while",
    "with", "yield"]

/-- Whether a text is one of the reserved words. -/
def isReserved (s : String) : Bool :=
  reservedWords.contains s

example : isIdentifier "naïve_1" = true := by decide +kernel
example : isIdentifier "1a" = false := by decide +kernel
example : isReserved "lambda" = true := by decide +kernel

end CaseGrid.Text
