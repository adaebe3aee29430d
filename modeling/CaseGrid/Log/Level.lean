import CaseGrid.Failure.Basic
import CaseGrid.Text.Blank
import CaseGrid.Text.LetterCase

/-
  Log levels are whole numbers, six of them with a name, and log records. A level without a
  name is shown by its number. A level may be given by name, in any letters and with blanks
  around it; where a number is expected, a truth value counts as zero or one.
-/

namespace CaseGrid.Log

/-- The levels with a name, most severe first; two have a second name. -/
def namedLevels : List (String × Int) :=
  [("CRITICAL", 50), ("FATAL", 50), ("ERROR", 40), ("WARNING", 30), ("WARN", 30), ("INFO", 20),
    ("DEBUG", 10), ("NOTSET", 0)]

def debug : Int := 10
def info : Int := 20
def warning : Int := 30
def error : Int := 40

/-- The level of a name. -/
def levelOf? (name : String) : Option Int :=
  (namedLevels.find? fun l => l.1 == name).map (·.2)

/-- A level as it is given: a number or a truth value. -/
inductive Severity where
  | number (n : Int)
  | flag (b : Bool)
  deriving DecidableEq, Repr, Inhabited

namespace Severity

/-- The number that a level counts as. -/
def toInt : Severity → Int
  | number n => n
  | flag b => if b then 1 else 0

/-- The level as a value. -/
def value : Severity → Value
  | number n => .int n
  | flag b => .bool b

/-- The name of a level; a truth value that counts as a level without a name is shown as it is. -/
def name (t : Severity) : String :=
  match namedLevels.find? fun l => l.2 == t.toInt with
  | some l => l.1
  | none => "Level " ++ t.value.literal

/-- The level that leaves the decision to others. -/
def unset : Severity := number 0

/-- Whether a level leaves the decision to others. -/
def isUnset (t : Severity) : Bool := t.toInt == 0

/-- The level of a name in any letters, with blanks around it. -/
def ofName? (name : String) : Option Severity :=
  (levelOf? (Text.upper (Text.trim name))).map number

/-- The failure for a value that names no level. -/
def unknownLevel (v : Value) : Failure :=
  .other .valueError ("Unknown log level: " ++ v.literal)

/-- The level that a value gives as a number or by name. -/
def ofValue : Value → Except Failure Severity
  | .int n => .ok (number n)
  | .bool b => .ok (flag b)
  | .text s =>
    match ofName? s with
    | some t => .ok t
    | none => .error (unknownLevel (.text s))
  | .scalar (.broken b) => .error (unknownLevel (.scalar (.broken b)))
  | .bytes bs => .error (unknownLevel (.bytes bs))
  | v => .error (.fault (.noPart v.kindName "strip"))

/-- The failure for a name in capitals that names no level. -/
def notLevel (v : Value) : Failure :=
  .other .valueError ("Unknown level: " ++ v.literal)

/-- The level that a value gives as a number or by a name in capitals, without blanks. -/
def ofExactValue : Value → Except Failure Severity
  | .int n => .ok (number n)
  | .bool b => .ok (flag b)
  | .text s =>
    match levelOf? s with
    | some n => .ok (number n)
    | none => .error (notLevel (.text s))
  | .scalar (.broken b) => .error (notLevel (.scalar (.broken b)))
  | v => .error (.other .typeError ("Level not an integer or a valid string: " ++ v.literal))

/-- The level of a record, which is not given by name. -/
def ofRecordValue : Value → Except Failure Severity
  | .int n => .ok (number n)
  | .bool b => .ok (flag b)
  | _ => .error (.other .typeError "level must be an integer")

end Severity

/-- A message of a logger at a level. A message may be made from a pattern and arguments. -/
structure Record where
  level : Severity
  logger : String
  message : String
  pattern : String := message
  arguments : List String := []
  deriving DecidableEq, Repr

example : (Severity.number 30).name = "WARNING" := by decide
example : (Severity.number 35).name = "Level 35" := by decide +kernel
example : (Severity.flag true).name = "Level True" := by decide +kernel
example : levelOf? "FATAL" = some 50 := by decide

end CaseGrid.Log
