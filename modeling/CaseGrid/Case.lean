import CaseGrid.Config
import CaseGrid.Scenario.Basic
import CaseGrid.Session

/-
  Cases: one combination of a scenario, bound and ready to execute. The computation is called
  with the bindings, the assertion with the bindings and the result; an answer of false is a
  mismatch. Executing a case is the one after the other, and every failure passes unchanged.
-/

namespace CaseGrid

/-- A fully bound combination. -/
structure Case where
  path : Path
  /-- The value of each variable, in order of declaration. -/
  bindings : Entries Value
  scenario : Option Scenario

namespace Case

/-- The case of any path that has items and any bindings. -/
def make (path : Value) (bindings : Entries Value) (scenario : Option Scenario) :
    Except Fault Case := do
  let segments ← path.items
  return ⟨segments, bindings, scenario⟩

/-- The title: the first segment of the path. -/
def title (c : Case) : Except Fault Value :=
  match c.path with
  | [] => .error .emptyPath
  | t :: _ => .ok t

/-- The written path. -/
def written (defaults : Config) (c : Case) : Except Fault Text.Points :=
  c.path.write defaults.separator

/-- The written path as it is shown. -/
def name (defaults : Config) (c : Case) : Except Fault String :=
  (c.written defaults).map Text.Points.shown

theorem exists_name {c : Case} (h : ∀ v ∈ c.path, ∃ ps, v.points? = some ps)
    (defaults : Config) : ∃ name, c.name defaults = .ok name :=
  Path.format_of_texts h defaults.separator

/-- The chosen value name of each variable. -/
def choices (c : Case) : List (Value × Value) :=
  Path.choices c.path

/-- Equality of cases; the scenario does not count. -/
def same (c d : Case) : Bool :=
  Value.alikeItems c.path d.path && Value.alike (.map c.bindings) (.map d.bindings)

/-- Equality of two cases of a list by position; a case equals itself. -/
def sameAt (cases : List Case) (i j : Nat) : Bool :=
  i == j ||
    match cases[i]?, cases[j]? with
    | some c, some d => c.same d
    | _, _ => false

/-- The written form of a case. -/
def literal (c : Case) : String :=
  "TestCase(path=" ++ (Value.tuple c.path).literal ++ ", bindings=mappingproxy(" ++
    (Value.map c.bindings).literal ++ "))"

/-- Bindings as named arguments; a name that is no text is a fault. -/
def argumentsOf : Entries Value → Except Fault Arguments
  | [] => .ok []
  | (k, v) :: es =>
    match k with
    | .text s => (argumentsOf es).map ((s, v) :: ·)
    | _ => .error .nameNotText

/-- Calls a step with bindings. -/
def callStep (role : Role) (step : Step) (bindings : Entries Value) : Session Value :=
  match step with
  | .stray v => .fail (.fault (.notCallable v.kindName))
  | .function apply =>
    match argumentsOf bindings with
    | .error e => .fail (.fault e)
    | .ok arguments => .call role apply arguments

/-- What a call of a step is named in a fault. -/
def stepLabel (role : Role) : Step → Except Fault String
  | .function _ => .ok (role.name ++ "()")
  | .stray v => v.shown

/-- The bindings with the result after them; its name must not be bound. -/
def withResult (s : Scenario) (bindings : Entries Value) (result : Value) :
    Except Fault (Entries Value) := do
  let name ← s.resultName.key
  if (bindings.get? name).isSome then
    let called ← stepLabel .check s.check
    let given ← name.shown
    throw (.repeatedArgument called given)
  return bindings ++ [(name, result)]

/-- Runs the computation. -/
def compute (c : Case) : Session Value :=
  match c.scenario with
  | none => .fail (.fault (.noPart Scalar.null.kindName Role.compute.name))
  | some s => callStep .compute s.compute c.bindings

/-- The mismatch of a case, for a reason. -/
def mismatch (defaults : Config) (path : Path) (reason : String) : Failure :=
  match path.format defaults.separator with
  | .ok title => .assertion path title reason
  | .error e => .fault e

/-- Runs the assertion on a result. -/
def check (defaults : Config) (c : Case) (result : Value) : Session Unit :=
  match c.scenario with
  | none => .fail (.fault (.noPart Scalar.null.kindName Role.check.name))
  | some s =>
    match withResult s c.bindings result with
    | .error e => .fail (.fault e)
    | .ok bindings => do
      let verdict ← callStep .check s.check bindings
      match verdict with
      | .bool false => do
        let shown ← Session.ofFault result.written
        .fail (mismatch defaults c.path ("assertion returned False for result " ++ shown))
      | _ => return ()

/-- Runs the computation, then the assertion on its result. -/
def execute (defaults : Config) (c : Case) : Session Value := do
  let result ← c.compute
  c.check defaults result
  return result

/-- Changing a binding is refused, at a number beyond the range of an index for that reason. -/
def setBinding (_ : Case) (name _ : Value) : Except Fault Case :=
  match name with
  | .int n =>
    if Value.fitsIndex n then .error .frozenBindings else .error .indexTooLarge
  | _ => .error .frozenBindings

/-- Changing the path is refused. -/
def setPath (_ : Case) (_ : Value) : Except Fault Case :=
  .error (.frozenField "path")

end Case

end CaseGrid
