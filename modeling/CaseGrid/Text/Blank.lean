/-
  Blank characters: the white space of Unicode together with the four information separators,
  which are no blanks around a number. Trimming a text removes blanks at both ends and nowhere
  else.
-/

namespace CaseGrid.Text

/-- White space, and the separators U+001C to U+001F. -/
def isBlank (c : Char) : Bool :=
  let n := c.toNat
  (9 ≤ n && n ≤ 13) || (28 ≤ n && n ≤ 32) || n == 0x85 || n == 0xA0 || n == 0x1680 ||
    (0x2000 ≤ n && n ≤ 0x200A) || n == 0x2028 || n == 0x2029 || n == 0x202F || n == 0x205F ||
    n == 0x3000

/-- White space alone. -/
def isWhite (c : Char) : Bool :=
  isBlank c && !(28 ≤ c.toNat && c.toNat ≤ 31)

/-- The text without the characters of a class at its ends. -/
def trimBy (isOut : Char → Bool) (cs : List Char) : List Char :=
  ((cs.dropWhile isOut).reverse.dropWhile isOut).reverse

/-- The text without the blanks at its ends. -/
def trimChars (cs : List Char) : List Char :=
  trimBy isBlank cs

/-- The text without the blanks at its ends. -/
def trim (s : String) : String :=
  String.ofList (trimChars s.toList)

example : trim " \t a b\n" = "a b" := by decide
example : trim "\u3000" = "" := by decide
example : trimBy isWhite "\x1c1\n".toList = "\x1c1".toList := by decide

end CaseGrid.Text
