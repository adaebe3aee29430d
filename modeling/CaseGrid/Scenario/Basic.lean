import CaseGrid.Scenario.Step
import CaseGrid.Scenario.Variable

/-
  Scenarios: a title, variables, a computation and an assertion on its result. Nothing in a
  scenario is checked when it is made; expansion checks all of it.
-/

namespace CaseGrid

/-- A parameterised test. -/
structure Scenario where
  title : Value
  items : List Item
  compute : Step
  check : Step
  /-- The name under which the assertion receives the result. -/
  resultName : Value

/-- The name of the result unless another is given. -/
def defaultResultName : Value := .text "result"

instance : Inhabited Scenario :=
  ⟨⟨.null, [], .stray .null, .stray .null, defaultResultName⟩⟩

namespace Scenario

/-- The product of the numbers of candidates. -/
def valueProduct (items : List Item) : Except Fault Nat :=
  items.foldlM (fun n item => (item.valueCount).map (n * ·)) 1

/-- The number of cases that items expand to: none without a variable. -/
def combinationCount (items : List Item) : Except Fault Nat :=
  if items.isEmpty then .ok 0 else valueProduct items

/-- The number of cases that a scenario expands to. -/
def size (s : Scenario) : Except Fault Nat :=
  combinationCount s.items

/-- The number of cases as a length, which has a limit. -/
def length (s : Scenario) : Except Fault Nat :=
  match s.size with
  | .error e => .error e
  | .ok n => if n ≤ Value.greatestLength then .ok n else .error .countTooLarge

/-- The names of the variables. -/
def itemNames (s : Scenario) : Except Fault (List Value) :=
  s.items.mapM fun item => (item.part "name").map Variable.name

/-- The scenario whose items are those of a value. -/
def ofItems (title items : Value) (compute check : Step) (resultName : Value) :
    Except Fault Scenario :=
  items.items.map fun xs => ⟨title, xs.map .stray, compute, check, resultName⟩

/-- The scenario of a table: for each variable the candidates by name. -/
def build (title : Value) (table : Entries (Entries Value)) (compute check : Step)
    (resultName : Value) : Except Fault Scenario := do
  let items ← table.mapM fun e => (Variable.ofNamed e.1 e.2).map Item.declared
  return ⟨title, items, compute, check, resultName⟩

/-- The written form of a scenario; the steps are left out. -/
def literal (s : Scenario) : String :=
  "Scenario(title=" ++ s.title.literal ++ ", variables=" ++
    tupleLiteral (s.items.map Item.literal) ++ ", result_name=" ++ s.resultName.literal ++ ")"

end Scenario

end CaseGrid
