import CaseGrid.Text.Alphanumeric

/-
  Templates for the lines of a log, as pieces: characters that stand for themselves, and
  directives. A directive is a percent sign, perhaps the name of a part of the record in
  parentheses, signs, a width, a precision, and a letter for the form. A text is a template if
  somewhere in it there is a directive with a name that is a word.
-/

namespace CaseGrid.Log

/-- A width or a precision. -/
inductive Measure where
  | absent
  | fixed (n : Nat)
  /-- To be taken from the arguments. -/
  | given
  deriving DecidableEq, Repr

/-- A directive without its percent sign. -/
structure Directive where
  /-- The part of the record. -/
  key : Option String
  signs : List Char
  width : Measure
  precision : Measure
  /-- The letter and its position in the template; none if the template ends before it. -/
  letter : Option (Char × Nat)
  deriving DecidableEq, Repr

/-- A piece of a template. -/
inductive Piece where
  | char (c : Char)
  | directive (d : Directive)
  /-- A name in parentheses that are not closed. -/
  | openName
  deriving DecidableEq, Repr

namespace Directive

/-- The signs: left, plus, blank, alternate and zeros. -/
def isSign (c : Char) : Bool := "-+ #0".toList.contains c

/-- A number in decimal digits. -/
def number (cs : List Char) : Nat :=
  cs.foldl (fun n c => 10 * n + (c.toNat - '0'.toNat)) 0

/-- A name up to the parenthesis that closes it, and the rest; `depth` counts the parentheses that
are open inside the name. -/
def readName : Nat → List Char → Option (List Char × List Char)
  | _, [] => none
  | depth, c :: cs =>
    if c == ')' && depth == 0 then some ([], cs)
    else
      let depth' := if c == '(' then depth + 1 else if c == ')' then depth - 1 else depth
      (readName depth' cs).map fun r => (c :: r.1, r.2)

/-- A width or a precision, and the rest; `other` is what no sign of one stands for. -/
def readMeasure (other : Measure) : List Char → Measure × List Char
  | '*' :: rest => (.given, rest)
  | cs =>
    let digits := cs.takeWhile Char.isDigit
    (if digits.isEmpty then other else .fixed (number digits), cs.drop digits.length)

/-- A precision after its point, and the rest. -/
def readPrecision : List Char → Measure × List Char
  | '.' :: rest => readMeasure (.fixed 0) rest
  | cs => (.absent, cs)

/-- The rest after a letter for the size of a number, which says nothing. -/
def skipSize : List Char → List Char
  | c :: rest => if "hlL".toList.contains c then rest else c :: rest
  | [] => []

/-- A directive after its name, and the rest; `total` is the length of the template. -/
def readForm (total : Nat) (key : Option String) (cs : List Char) : Directive × List Char :=
  let signs := cs.takeWhile isSign
  let (width, rest) := readMeasure .absent (cs.drop signs.length)
  let (precision, rest) := readPrecision rest
  match skipSize rest with
  | [] => (⟨key, signs, width, precision, none⟩, [])
  | c :: rest => (⟨key, signs, width, precision, some (c, total - (rest.length + 1))⟩, rest)

end Directive

namespace Piece

/-- The pieces of the rest of a template of a length. Every piece takes a character at least, so
`fuel` need not exceed the number of characters. -/
def readFrom (total : Nat) : Nat → List Char → List Piece
  | 0, _ => []
  | _, [] => []
  | fuel + 1, '%' :: rest =>
    match rest with
    | '%' :: rest => .char '%' :: readFrom total fuel rest
    | '(' :: rest =>
      match Directive.readName 0 rest with
      | none => [.openName]
      | some (name, rest) =>
        let (d, rest) := Directive.readForm total (some (String.ofList name)) rest
        .directive d :: readFrom total fuel rest
    | rest =>
      let (d, rest) := Directive.readForm total none rest
      .directive d :: readFrom total fuel rest
  | fuel + 1, c :: rest => .char c :: readFrom total fuel rest

/-- The pieces of a template. -/
def read (template : String) : List Piece :=
  readFrom template.length template.length template.toList

end Piece

namespace Template

/-- The letters that a proper field may end in, capitals of any script among them. -/
def fieldLetters : List Char :=
  "diouxefgcrsaDIOUXEFGCRSA%\u0130\u0131\u017F".toList

/-- A width or precision in digits of any script, and the rest. -/
def skipMeasure : List Char → Option (List Char)
  | '*' :: rest => some rest
  | cs =>
    let rest := cs.dropWhile fun c => (Text.digitValue? c).isSome
    if rest.length < cs.length then some rest else none

/-- Whether a proper field begins after a percent sign: one with a word for a name. -/
def isField : List Char → Bool
  | '(' :: cs =>
    let rest := cs.dropWhile Text.isWordChar
    match rest with
    | ')' :: more =>
      let more := more.dropWhile Directive.isSign
      let more := (skipMeasure more).getD more
      let more :=
        match more with
        | '.' :: after => (skipMeasure after).getD more
        | _ => more
      rest.length < cs.length && (more.head?.map fieldLetters.contains).getD false
    | _ => false
  | _ => false

/-- Whether some proper field occurs in a text. -/
def hasField : List Char → Bool
  | [] => false
  | c :: rest => (c == '%' && isField rest) || hasField rest

end Template

example : Piece.read "a%%%(n)-5.2s" =
    [.char 'a', .char '%', .directive ⟨some "n", ['-'], .fixed 5, .fixed 2, some ('s', 11)⟩] := by
  decide +kernel
example : Piece.read "%(a(b)" = [.openName] := by decide +kernel
example : Piece.read "%5" = [.directive ⟨none, [], .fixed 5, .absent, none⟩] := by decide +kernel
example : Template.hasField "%%(n)d".toList = true := by decide +kernel
example : Template.hasField "%(a b)s".toList = false := by decide +kernel

end CaseGrid.Log
