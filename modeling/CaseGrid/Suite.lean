import CaseGrid.Expansion
import CaseGrid.Module
import CaseGrid.Selection

/-
  Suites: scenarios with different titles, in the order in which they were added. A suite has
  settings of its own or none; it expands all of its scenarios or, if one of them breaks a rule,
  none.
-/

namespace CaseGrid

/-- Scenarios by title, and the settings for all of them. -/
structure Suite where
  config : Option Config
  members : Entries Member

namespace Suite

/-- The name of the log of suites. -/
def logger : String := "combitest.suite"

/-- A suite without scenarios. -/
def empty (config : Option Config) : Suite := ⟨config, []⟩

/-- The suite with one more scenario. -/
def add (s : Suite) (m : Member) : Session Suite := do
  let title ← Session.ofFault m.scenario.title.key
  if (s.members.get? title).isSome then
    Session.log Log.error logger ("Duplicate scenario title: " ++ title.label)
    Session.fail (.specification (.make "title is already used in this suite" title .null none))
  else return { s with members := s.members ++ [(title, m)] }

/-- The suite with some more scenarios, one after the other. -/
def addAll : List Member → Suite → Session Suite
  | [], s => Session.pure s
  | m :: ms, s => Session.bind (s.add m) (addAll ms)

/-- The suite of some scenarios. -/
def ofMembers (config : Option Config) (ms : List Member) : Session Suite :=
  addAll ms (empty config)

/-- The suite of the scenarios that a module binds to names of tests. -/
def ofModule (config : Option Config) (start : Option String) (moduleName : String)
    (ds : Definitions) : Session Suite := do
  let found := ds.scenarios start
  Session.log Log.debug logger
    ("Found " ++ toString found.length ++ " scenario(s) in module " ++ moduleName)
  ofMembers config found

/-- The titles in order. -/
def titles (s : Suite) : List Value :=
  s.members.keys

/-- The scenarios in order. -/
def scenarios (s : Suite) : List Scenario :=
  s.members.map fun e => e.2.scenario

/-- The scenario of a title. -/
def get (s : Suite) (title : Value) : Except Fault Member := do
  let key ← title.key
  match s.members.get? key with
  | some m => return m
  | none => throw (.unknownKey title)

/-- Whether there is a scenario of a title. -/
def contains (s : Suite) (title : Value) : Except Fault Bool := do
  let key ← title.key
  return (s.members.get? key).isSome

/-- The settings that apply to the scenarios. -/
def settings (defaults : Config) (s : Suite) : Config :=
  s.config.getD defaults

/-- The cases of each scenario, after all of them were checked. -/
def expand (defaults : Config) (s : Suite) : Session (List (Scenario × List Case)) := do
  let config := s.settings defaults
  let _ ← Session.forEach (Expansion.accept config) s.scenarios
  Session.forEach (fun x => do
    let cases ← Expansion.expand config x
    return (x, cases)) s.scenarios

/-- The cases of all scenarios, one scenario after the other. -/
def cases (defaults : Config) (s : Suite) : Session (List Case) := do
  let groups ← s.expand defaults
  return groups.flatMap (·.2)

/-- Runs all cases, or those that written patterns select if there are any. -/
def run (defaults : Config) (patterns : List String) (s : Suite) : Session Summary := do
  let cases ← s.cases defaults
  if patterns.isEmpty then Run.all defaults cases
  else
    let kept ← Selection.select (s.settings defaults).separator patterns cases
    Run.all defaults kept

end Suite

end CaseGrid
