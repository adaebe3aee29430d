import CaseGrid.Text.PrintableTable
import CaseGrid.Text.Ranges

/-
  Quoted literals of texts and of byte strings. Single quotes are preferred; double quotes are
  taken only for a text that holds a single quote and no double one. Tab, line feed and
  carriage return have letters of their own, and what has no printed form is written by its
  number in two, four or eight hexadecimal digits.
-/

namespace CaseGrid.Text

/-- Whether a character stands for itself in a literal. -/
def isPrintable (c : Char) : Bool :=
  if c.toNat < 0x7F then 0x20 ≤ c.toNat
  else !inRanges unprintableRanges c.toNat

/-- A small hexadecimal digit. -/
def hexDigit (n : Nat) : Char :=
  if n < 10 then Char.ofNat (0x30 + n) else Char.ofNat (0x61 + (n - 10))

/-- The last `width` hexadecimal digits of a number. -/
def hexDigits : Nat → Nat → List Char
  | 0, _ => []
  | width + 1, n => hexDigits width (n / 16) ++ [hexDigit (n % 16)]

/-- The number of a character, after a backslash and a letter for its width. -/
def numbered (n : Nat) : List Char :=
  if n < 0x100 then '\\' :: 'x' :: hexDigits 2 n
  else if n < 0x10000 then '\\' :: 'u' :: hexDigits 4 n
  else '\\' :: 'U' :: hexDigits 8 n

/-- The mark that encloses a literal. -/
def quoteFor (cs : List Char) : Char :=
  if cs.contains '\'' && !cs.contains '"' then '"' else '\''

/-- One character inside a literal enclosed by `quote`. -/
def quotedChar (quote c : Char) : List Char :=
  if c == quote || c == '\\' then ['\\', c]
  else if c == '\t' then ['\\', 't']
  else if c == '\n' then ['\\', 'n']
  else if c == '\r' then ['\\', 'r']
  else if isPrintable c then [c]
  else numbered c.toNat

/-- The literal of a text, as characters. -/
def quotedChars (cs : List Char) : List Char :=
  let quote := quoteFor cs
  quote :: (cs.flatMap (quotedChar quote) ++ [quote])

/-- The literal of a text. -/
def quoted (s : String) : String :=
  String.ofList (quotedChars s.toList)

/-- One byte inside a literal enclosed by `quote`; only ASCII stands for itself. -/
def quotedByte (quote : Char) (b : UInt8) : List Char :=
  let c := Char.ofNat b.toNat
  if b < 0x7F then quotedChar quote c else numbered b.toNat

/-- The literal of a byte string, marked by a leading `b`. -/
def quotedBytes (bytes : List UInt8) : String :=
  let quote := quoteFor (bytes.map fun b => Char.ofNat b.toNat)
  String.ofList ('b' :: quote :: (bytes.flatMap (quotedByte quote) ++ [quote]))

example : quoted "it's" = "\"it's\"" := by decide +kernel
example : quoted "a'\"\n" = "'a\\'\"\\n'" := by decide +kernel
example : quoted "é\u200b\x00" = "'é\\u200b\\x00'" := by decide +kernel
example : quotedBytes [0x61, 0x27, 0xFF] = "b\"a'\\xff\"" := by decide +kernel

end CaseGrid.Text
