import CaseGrid.Config
import CaseGrid.Scenario.Basic
import CaseGrid.Text.Identifier

/-
  The rules for scenarios. The first rule that is broken, in the order of steps, title, variables,
  their candidates and at last the number of cases, gives the rejection; a scenario that keeps
  all of them gives its variables. A rejection is told as an error, unless the error would have to
  show a number that is too long to be written.
-/

namespace CaseGrid

open CaseGrid.Text (Points isIdentifier isReserved occursIn)

/-- The ways of breaking a rule. -/
inductive Violation where
  | computeNotCallable
  | checkNotCallable
  | resultNotIdentifier
  /-- A title or value name that is no text, or an empty one. -/
  | notLabel (what : String) (got : Value)
  /-- A title or value name with the separator in it. -/
  | separatorInLabel (what label separator : String)
  | noVariables
  | notVariable (kind : String)
  | notIdentifier
  | reservedName
  | repeatedVariable
  | noValues
  | repeatedValue (name : String)
  | tooManyCases (count : Nat) (limit : Int)
  deriving Repr

namespace Violation

/-- The violation in words. -/
def message : Violation → String
  | computeNotCallable => "'when' must be callable"
  | checkNotCallable => "'then' must be callable"
  | resultNotIdentifier => "result_name must be a Python identifier"
  | notLabel what got => what ++ " must be a non-empty string, got " ++ got.literal
  | separatorInLabel what label separator =>
    what ++ " '" ++ label ++ "' must not contain the path separator '" ++ separator ++ "'"
  | noVariables => "at least one variable is required"
  | notVariable kind => "expected a Variable, got " ++ kind
  | notIdentifier => "variable name must be a Python identifier"
  | reservedName => "variable name collides with the result keyword"
  | repeatedVariable => "variable is declared more than once"
  | noValues => "variable has no values"
  | repeatedValue name => "duplicate value name '" ++ name ++ "'"
  | tooManyCases count limit =>
    "expansion would create " ++ toString count ++ " cases (limit: " ++ toString limit ++
      "); use fewer values or split the scenario"

/-- Whether the words would show a number with too many digits to be written. -/
def isTooLong : Violation → Bool
  | notLabel _ got => got.isTooLong
  | tooManyCases count limit => Number.isTooLong count || Number.isTooLong limit
  | _ => false

end Violation

/-- A violation and its place: the title of the scenario and the name of the variable, each of
them null where it is not told. -/
structure Rejection where
  violation : Violation
  scenario : Value
  variableName : Value
  deriving Repr

namespace Rejection

/-- Whether the error would show a number with too many digits to be written. -/
def isTooLong (r : Rejection) : Bool :=
  r.violation.isTooLong || r.scenario.isTooLong || r.variableName.isTooLong

/-- The error for a rejection, or the fault that a number in it cannot be written. -/
def error (r : Rejection) : Except Fault SpecificationError :=
  if r.isTooLong then .error .numberTooLong
  else .ok (.make r.violation.message r.scenario r.variableName none)

end Rejection

namespace Validation

/-- A label: a text that is not empty and does not hold the separator. Its code points are the
answer. -/
def readLabel (what separator : String) (label : Value) : Except Violation Points :=
  match label.points? with
  | none => .error (.notLabel what label)
  | some ps =>
    if ps.isEmpty then .error (.notLabel what label)
    else if occursIn (Points.ofString separator) ps then
      .error (.separatorInLabel what ps.shown separator)
    else .ok ps

/-- The candidates have names that are labels and differ from each other and from `seen`. -/
def checkChoices (separator : String) (seen : List Points) : List Choice → Except Violation Unit
  | [] => .ok ()
  | c :: cs => do
    let name ← readLabel "value name" separator c.name
    if seen.contains name then throw (.repeatedValue name.shown)
    checkChoices separator (name :: seen) cs

/-- The name of a variable is an identifier that is neither reserved nor used before. -/
def checkName (reserved : List Value) (seen : List String) (name : Value) :
    Except Violation String :=
  match name with
  | .text s =>
    if !isIdentifier s || isReserved s then .error .notIdentifier
    else if reserved.any fun r => r.alike name then .error .reservedName
    else if seen.contains s then .error .repeatedVariable
    else .ok s
  | _ => .error .notIdentifier

/-- A variable keeps the rules, given the names used before; its name is the answer. -/
def checkVariable (separator : String) (reserved : List Value) (seen : List String)
    (v : Variable) : Except Violation String := do
  let name ← checkName reserved seen v.name
  if v.values.isEmpty then throw .noValues
  checkChoices separator [] v.values
  return name

/-- Every item is a variable that keeps the rules; the variables are the answer. -/
def checkItems (separator : String) (title : Value) (reserved : List Value) :
    List String → List Item → Except Rejection (List Variable)
  | _, [] => .ok []
  | seen, item :: rest =>
    match item with
    | .stray v => .error ⟨.notVariable v.kindName, title, .null⟩
    | .declared v => do
      let name ← (checkVariable separator reserved seen v).mapError (⟨·, title, v.name⟩)
      let vs ← checkItems separator title reserved (name :: seen) rest
      return v :: vs

/-- The number of combinations of variables, none without a variable. -/
def combinations (vs : List Variable) : Nat :=
  if vs.isEmpty then 0 else (vs.map fun v => v.values.length).foldl (· * ·) 1

/-- Title and items keep the rules. -/
def checkVariables (config : Config) (title : Value) (items : List Item) (reserved : List Value) :
    Except Rejection (List Variable) := do
  let _ ← (readLabel "title" config.separator title).mapError (⟨·, .null, .null⟩)
  if items.isEmpty then throw ⟨.noVariables, title, .null⟩
  let vs ← checkItems config.separator title reserved [] items
  let count := combinations vs
  if config.fits count then return vs
  else throw ⟨.tooManyCases count (config.maxCases.getD 0), title, .null⟩

/-- A scenario keeps the rules. -/
def checkScenario (config : Config) (s : Scenario) : Except Rejection (List Variable) :=
  if !s.compute.isCallable then .error ⟨.computeNotCallable, s.title, .null⟩
  else if !s.check.isCallable then .error ⟨.checkNotCallable, s.title, .null⟩
  else
    match s.resultName with
    | .text name =>
      if isIdentifier name then checkVariables config s.title s.items [s.resultName]
      else .error ⟨.resultNotIdentifier, s.title, .null⟩
    | _ => .error ⟨.resultNotIdentifier, s.title, .null⟩

end Validation

end CaseGrid
