import CaseGrid.Log.Conversion
import CaseGrid.Log.Level
import CaseGrid.Text.Split

/-
  Lines of a log from templates. A directive with a name takes that part of the record; the first
  one without takes all parts together, and no part is taken twice. What is wrong first, in the
  order of the template, is the failure of the line.
-/

namespace CaseGrid.Log

namespace Template

/-- The template unless another is given. -/
def standard : String := "%(asctime)s - %(name)s - %(levelname)s - %(message)s"

/-- A text as a template, the standard one for an empty text. -/
def check (text : String) : Except Failure String :=
  if text = "" then .ok standard
  else if hasField text.toList then .ok text
  else .error (.other .valueError ("Invalid format '" ++ text ++ "' for '%' style"))

/-- What is not kept of a record: where and when it was written. -/
def unkept (isText : Bool) : Value :=
  if isText then .text "" else .int 0

/-- The parts of a record by name, for a template. -/
def parts (template : String) (r : Record) : Entries Value :=
  let part (name : String) (v : Value) : Value × Value := (.text name, v)
  let instant : Value := .float (.zero false)
  [part "name" (.text r.logger), part "msg" (.text r.pattern),
    part "args" (.tuple (r.arguments.map Value.text)),
    part "levelname" (.text r.level.name), part "levelno" r.level.value,
    part "pathname" (unkept true), part "filename" (unkept true), part "module" (unkept true),
    part "exc_info" .null, part "exc_text" .null, part "stack_info" .null,
    part "lineno" (unkept false), part "funcName" (unkept true), part "created" instant,
    part "msecs" instant, part "relativeCreated" instant, part "thread" (unkept false),
    part "threadName" (.text "MainThread"), part "processName" (.text "MainProcess"),
    part "process" (unkept false), part "message" (.text r.message)] ++
    (if Text.holds template "%(asctime)" then [part "asctime" (unkept true)] else [])

/-- The argument that is left, and none after it. -/
def nextArgument : Option Value → Except Failure Value
  | some v => .ok v
  | none => .error (.other .typeError "not enough arguments for format string")

/-- The greatest width and the greatest precision. -/
def greatestWidth : Nat := Value.greatestLength

def greatestPrecision : Nat := Nat.pow 2 31 - 1

/-- A width or a precision, with the argument that is left after it. One that is taken from the
argument has to be a whole number in range, and leaves no argument. -/
def measured (what word : String) (greatest : Nat) (m : Measure) (argument : Option Value) :
    Except Failure (Option Nat × Option Value) :=
  match m with
  | .absent => .ok (none, argument)
  | .fixed n =>
    if n ≤ greatest then .ok (some n, argument)
    else .error (.other .valueError (what ++ " too big"))
  | .given => do
    let v ← nextArgument argument
    match v with
    | .scalar s =>
      match s.whole? with
      | some n =>
        if -(greatest : Int) - 1 ≤ n ∧ n ≤ greatest then return (some n.natAbs, none)
        else throw (.other .overflowError ("Python int too large to convert to C " ++ word))
      | none => throw (.other .typeError "* wants int")
    | _ => throw (.other .typeError "* wants int")

/-- The greatest width of what can be held. -/
def heldWidth : Nat := Nat.pow 2 40

/-- The text of a directive, and the argument that is left after it. -/
def directiveText (all : Entries Value) (argument : Option Value) (d : Directive) :
    Except Failure (List Char × Option Value) := do
  let argument ← match d.key with
    | none => pure argument
    | some name =>
      match all.get? (.text name) with
      | some v => pure (some v)
      | none =>
        throw (.other .valueError
          ("Formatting field not found in record: " ++ (Value.text name).literal))
  let (width, argument) ← measured "width" "ssize_t" greatestWidth d.width argument
  let (precision, argument) ← measured "precision" "int" greatestPrecision d.precision argument
  match d.letter with
  | none => throw (.other .valueError "incomplete format")
  | some (letter, position) =>
    let v ← nextArgument argument
    let written ← Conversion.write d.signs precision letter position v
    if width.getD 0 > heldWidth then throw (.other (.ordinary "MemoryError") "")
    return (Conversion.setOut d.signs (width.getD 0) written, none)

/-- The text of pieces, given the argument that is left before them. -/
def piecesText (all : Entries Value) : Option Value → List Piece → Except Failure (List Char)
  | _, [] => .ok []
  | argument, .char c :: rest => do
    return c :: (← piecesText all argument rest)
  | _, .openName :: _ => .error (.other .valueError "incomplete format key")
  | argument, .directive d :: rest => do
    let (text, argument) ← directiveText all argument d
    return text ++ (← piecesText all argument rest)

/-- The line of a record. -/
def line (template : String) (r : Record) : Except Failure String := do
  let all := parts template r
  let text ← piecesText all (some (.map all)) (Piece.read template)
  return String.ofList text

end Template

end CaseGrid.Log
