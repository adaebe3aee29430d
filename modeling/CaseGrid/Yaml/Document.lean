import CaseGrid.Yaml.Data
import CaseGrid.Yaml.Event.Grammar
import CaseGrid.Yaml.Token.Stream

/-
  YAML texts as a whole. A text may hold printable characters and breaks only, and at most one
  document; what is wrong first, in the order of the text, is the trouble that is reported.
  Only a document that is complete is built into data.
-/

namespace CaseGrid.Yaml

/-- Whether a text may hold a character. -/
def isAllowed (c : Char) : Bool :=
  let n := c.toNat
  n == 0x9 || n == 0xA || n == 0xD || (0x20 ≤ n && n ≤ 0x7E) || n == 0x85 ||
    (0xA0 ≤ n && n ≤ 0xD7FF) || (0xE000 ≤ n && n ≤ 0xFFFD) || 0x10000 ≤ n

/-- All characters from a position on are allowed. -/
def checkCharacters (position : Nat) : List Char → Except Trouble Unit
  | [] => .ok ()
  | c :: cs =>
    if isAllowed c then checkCharacters (position + 1) cs else .error (.character position c)

/-- The data of the document of a text; a text may have none. -/
def Data.ofText (source : List Char) : Except Trouble (Option Data) := do
  checkCharacters 0 source
  let (nodes, root) ← Node.ofEvents (Event.ofTokens (Token.ofText source))
  match root with
  | none => return none
  | some i => return some (← Data.ofNodes nodes i)

end CaseGrid.Yaml
