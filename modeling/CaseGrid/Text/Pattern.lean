/-
  Patterns over characters, matched by derivatives: the derivative of a pattern by a character
  matches the rests of what the pattern matches after that character. A text matches if the
  pattern left after all its characters matches the empty text.
-/

namespace CaseGrid.Text

/-- A regular pattern. -/
inductive Pattern where
  /-- Matches nothing. -/
  | never
  /-- Matches the empty text only. -/
  | empty
  /-- Matches one character of a class. -/
  | one (accepts : Char → Bool)
  | seq (first second : Pattern)
  | alt (left right : Pattern)
  | star (p : Pattern)

namespace Pattern

/-- Whether a pattern matches the empty text. -/
def nullable : Pattern → Bool
  | never => false
  | empty => true
  | one _ => false
  | seq p q => p.nullable && q.nullable
  | alt p q => p.nullable || q.nullable
  | star _ => true

/-- One pattern after the other, without parts that match nothing or the empty text only. -/
def seq' : Pattern → Pattern → Pattern
  | never, _ => never
  | _, never => never
  | empty, q => q
  | p, q => seq p q

/-- One pattern or the other, without parts that match nothing. -/
def alt' : Pattern → Pattern → Pattern
  | never, q => q
  | p, never => p
  | p, q => alt p q

/-- What is left to match after a character. -/
def after (c : Char) : Pattern → Pattern
  | never => never
  | empty => never
  | one accepts => if accepts c then empty else never
  | seq p q =>
    if p.nullable then alt' (seq' (p.after c) q) (q.after c) else seq' (p.after c) q
  | alt p q => alt' (p.after c) (q.after c)
  | star p => seq' (p.after c) (star p)

/-- Whether the characters match. -/
def accepts (p : Pattern) : List Char → Bool
  | [] => p.nullable
  | c :: cs => (p.after c).accepts cs

/-- Whether the characters match, a final line feed left out if need be. -/
def acceptsLine (p : Pattern) (cs : List Char) : Bool :=
  p.accepts cs || (cs.getLast? == some '\n' && p.accepts cs.dropLast)

/-- One given character. -/
def char (c : Char) : Pattern := one (· == c)

/-- One of some characters. -/
def among (s : String) : Pattern := one s.toList.contains

/-- A character of a range. -/
def range (first last : Char) : Pattern := one fun c => first ≤ c && c ≤ last

/-- The characters of a text in order. -/
def word (s : String) : Pattern := s.toList.foldr (fun c p => seq (char c) p) empty

/-- One of some texts. -/
def words (ws : List String) : Pattern := ws.foldr (fun w p => alt (word w) p) never

/-- A pattern or nothing. -/
def opt (p : Pattern) : Pattern := alt empty p

/-- A pattern once or more. -/
def plus (p : Pattern) : Pattern := seq p (star p)

/-- Patterns one after the other. -/
def chain (ps : List Pattern) : Pattern := ps.foldr seq empty

/-- One of some patterns. -/
def choice (ps : List Pattern) : Pattern := ps.foldr alt never

/-- An ASCII digit. -/
def digit : Pattern := range '0' '9'

example : (plus digit).accepts "042".toList = true := by decide +kernel
example : (words ["yes", "no"]).accepts "ye".toList = false := by decide +kernel
example : (chain [opt (among "-+"), digit]).acceptsLine "-7\n".toList = true := by decide +kernel

end Pattern

end CaseGrid.Text
