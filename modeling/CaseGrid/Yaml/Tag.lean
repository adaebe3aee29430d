import CaseGrid.Text.Pattern

/-
  Tags of nodes, and the tags that plain scalars have by their text: truth values, numbers,
  nulls, dates and times, and the signs for merging and for a default value. What matches none
  of the patterns is a text.
-/

namespace CaseGrid.Yaml

open CaseGrid.Text (Pattern)
open CaseGrid.Text.Pattern

/-- The tag of a name of the YAML repository. -/
def standardTag (name : String) : String := "tag:yaml.org,2002:" ++ name

namespace Tag

def null : String := standardTag "null"
def bool : String := standardTag "bool"
def int : String := standardTag "int"
def float : String := standardTag "float"
def timestamp : String := standardTag "timestamp"
def merge : String := standardTag "merge"
def default : String := standardTag "value"
def yaml : String := standardTag "yaml"
def str : String := standardTag "str"
def seq : String := standardTag "seq"
def map : String := standardTag "map"
def set : String := standardTag "set"
def binary : String := standardTag "binary"
def omap : String := standardTag "omap"
def pairs : String := standardTag "pairs"

end Tag

namespace PlainText

/-- Digits and low lines. -/
def digitOrLine : Pattern := alt digit (char '_')

/-- An optional sign. -/
def sign : Pattern := opt (among "-+")

/-- An optional exponent, whose sign must be written. -/
def exponent : Pattern := opt (chain [among "eE", among "-+", plus digit])

/-- Sixtieths after a colon. -/
def sixtieths : Pattern := plus (chain [char ':', opt (range '0' '5'), digit])

/-- A truth value. -/
def boolPattern : Pattern :=
  words ["yes", "Yes", "YES", "no", "No", "NO", "true", "True", "TRUE", "false", "False", "FALSE",
    "on", "On", "ON", "off", "Off", "OFF"]

/-- A number with a point. -/
def floatPattern : Pattern :=
  choice [
    chain [sign, digit, star digitOrLine, char '.', star digitOrLine, exponent],
    chain [char '.', digit, star digitOrLine, exponent],
    chain [sign, digit, star digitOrLine, sixtieths, char '.', star digitOrLine],
    chain [sign, char '.', words ["inf", "Inf", "INF"]],
    chain [char '.', words ["nan", "NaN", "NAN"]]]

/-- A whole number to the base 2, 8, 10, 16 or 60. -/
def intPattern : Pattern :=
  choice [
    chain [sign, word "0b", plus (among "01_")],
    chain [sign, char '0', plus (alt (range '0' '7') (char '_'))],
    chain [sign, alt (char '0') (seq (range '1' '9') (star digitOrLine))],
    chain [sign, word "0x", plus (choice [digit, range 'a' 'f', range 'A' 'F', char '_'])],
    chain [sign, range '1' '9', star digitOrLine, sixtieths]]

/-- The absence of a value. -/
def nullPattern : Pattern := words ["~", "null", "Null", "NULL", ""]

/-- One digit or two. -/
def oneOrTwo : Pattern := seq digit (opt digit)

/-- Exactly two digits. -/
def two : Pattern := seq digit digit

/-- Spaces and tabs. -/
def blanks : Pattern := star (among " \t")

/-- A date, or a date and a time. -/
def timestampPattern : Pattern :=
  choice [
    chain [two, two, char '-', two, char '-', two],
    chain [two, two, char '-', oneOrTwo, char '-', oneOrTwo,
      alt (among "Tt") (plus (among " \t")),
      oneOrTwo, char ':', two, char ':', two, opt (seq (char '.') (star digit)),
      opt (seq blanks
        (alt (char 'Z') (chain [among "-+", oneOrTwo, opt (seq (char ':') two)])))]]

end PlainText

namespace Tag

/-- Patterns with their tags and the characters that a text of each may begin with; the empty
text counts for a pattern only if that is said. -/
def patterns : List (String × String × Bool × Pattern) :=
  [(bool, "yYnNtTfFoO", false, PlainText.boolPattern),
    (float, "-+0123456789.", false, PlainText.floatPattern),
    (int, "-+0123456789", false, PlainText.intPattern),
    (merge, "<", false, word "<<"),
    (null, "~nN", true, PlainText.nullPattern),
    (timestamp, "0123456789", false, PlainText.timestampPattern),
    (default, "=", false, word "="),
    (yaml, "!&*", false, words ["!", "&", "*"])]

/-- The tag that a plain scalar has by its text. -/
def ofPlain (text : List Char) : String :=
  let fits : String × String × Bool × Pattern → Bool := fun (_, first, ofEmpty, p) =>
    (match text with
      | [] => ofEmpty
      | c :: _ => first.toList.contains c) && p.acceptsLine text
  match patterns.find? fits with
  | some (tag, _) => tag
  | none => str

example : ofPlain "0x_1F".toList = int := by decide +kernel
example : ofPlain "1e3".toList = str := by decide +kernel
example : ofPlain "190:20:30.15".toList = float := by decide +kernel
example : ofPlain "2001-12-14t21:59:43.10-05:00".toList = timestamp := by decide +kernel
example : ofPlain [] = null := by decide +kernel

end Tag

end CaseGrid.Yaml
