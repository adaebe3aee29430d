import CaseGrid.Case
import CaseGrid.Validation

/-
  Expansion: one case for each combination of the candidates, the first variable varying
  slowest and the last one fastest. A scenario is checked in full before its first case is
  made, so it gives all of its cases or none.
-/

namespace CaseGrid

/-- A path and the bindings that go with it. -/
abbrev Combination := Path × Entries Value

namespace Expansion

/-- The combinations of variables after a path and bindings so far. -/
def combine : List Variable → Path → Entries Value → List Combination
  | [], path, bound => [(path, bound)]
  | v :: vs, path, bound =>
    v.values.flatMap fun c => combine vs (path.extend v.name c.name) (bound.put v.name c.value)

/--
The combinations of items that have not been checked. An item that is no variable is a fault
where a combination reaches it, and so is a name that cannot be a key.
-/
def combineItems : List Item → Path → Entries Value → Except Fault (List Combination)
  | [], path, bound => .ok [(path, bound)]
  | item :: rest, path, bound => do
    let choices ← item.values
    let parts ← choices.mapM fun c => do
      let name ← item.name.key
      combineItems rest (path.extend name c.name) (bound.put name c.value)
    return parts.flatten

/-- The name of the log of expansion. -/
def logger : String := "combitest.expand"

/-- The answer of a check, its error written to the log. -/
def report {α : Type} (x : Except Rejection α) : Session α :=
  match x with
  | .ok a => Session.pure a
  | .error r => do
    let e ← Session.ofFault r.error
    Session.log Log.error logger ("Invalid scenario definition: " ++ e.message)
    Session.fail (.specification e)

/-- Title and items keep the rules. -/
def acceptItems (config : Config) (title : Value) (items : List Item)
    (reserved : List Value) : Session (List Variable) :=
  report (Validation.checkVariables config title items reserved)

/-- A scenario keeps the rules. -/
def accept (config : Config) (s : Scenario) : Session (List Variable) :=
  report (Validation.checkScenario config s)

/-- The paths of checked items, without cases. -/
def paths (config : Config) (title : Value) (items : List Item) : Session (List Path) := do
  let vs ← acceptItems config title items []
  return (combine vs [title] []).map (·.1)

/-- The cases of variables that keep the rules. -/
def casesOf (s : Scenario) (vs : List Variable) : List Case :=
  (combine vs [s.title] []).map fun (path, bindings) => ⟨path, bindings, some s⟩

/-- The line that the log keeps of an expansion. -/
def summaryLine (s : Scenario) (variableCount caseCount : Nat) : String :=
  "Expanded scenario '" ++ s.title.label ++ "': " ++ toString variableCount ++
    " variable(s) -> " ++ toString caseCount ++ " case(s)"

/-- The cases of a scenario, if it keeps the rules. -/
def expand (config : Config) (s : Scenario) : Session (List Case) := do
  let vs ← accept config s
  let cases := casesOf s vs
  Session.log Log.debug logger (summaryLine s vs.length cases.length)
  return cases

end Expansion

end CaseGrid
