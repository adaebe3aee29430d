import CaseGrid.Command.Request
import CaseGrid.Command.Target
import CaseGrid.Document.Load
import CaseGrid.Suite
import CaseGrid.Text.Table
import CaseGrid.Tree

/-
  The commands. One shows the cases of the scenarios in a target, by name or as an outline; the
  other one runs them and prints a table. A target that is not there or that cannot be loaded,
  and a malformed scenario, are reported in words; the status tells whether all went well.
-/

namespace CaseGrid.Command

/-- The name of the log of commands. -/
def logger : String := "combitest.cli"

/-- Prints lines, each one indented. -/
def printBelow (lines : List String) : Session Unit := do
  let _ ← Session.forEach (fun line => Session.print ("  " ++ line)) lines
  return ()

/-- The line above the cases of a scenario. -/
def heading (title : String) (variableCount caseCount : Nat) : String :=
  "\n" ++ title ++ ": " ++ Text.counted variableCount "variable" ++ ", " ++
    Text.counted caseCount "case"

/-- Prints the names of paths. -/
def printPaths (defaults : Config) (paths : List Path) : Session Unit := do
  let names ← Session.ofFault (paths.mapM (Path.format defaults.separator))
  printBelow names

/-- Prints a tree of cases as an outline. -/
def printTree {α : Type} (t : Tree α) : Session Unit :=
  printBelow ((t.outline Tree.defaultIndent).map Value.label)

/-- Shows the cases of a scenario document. -/
def inspectDocument (defaults : Config) (s : Surroundings) (path : String) (asTree : Bool) :
    Session Unit := do
  let text ← Session.ofExcept (s.readText path)
  let d ← Document.load text
  let paths ← Expansion.paths defaults d.title (d.declared.map .declared)
  Session.print (heading d.title.label d.axes.length paths.length)
  if asTree then
    let t : Tree Unit ← Session.ofFault (Tree.ofPaths paths)
    printTree t
  else printPaths defaults paths

/-- The suite of a module. -/
def suiteOf (s : Surroundings) (target : String) : Session Suite := do
  let (name, ds) ← Session.ofExcept (s.load target)
  Suite.ofModule none (some Definitions.testPrefix) name ds

/-- Shows the cases of one scenario. -/
def inspectScenario (defaults : Config) (asTree : Bool) (x : Scenario) (cases : List Case) :
    Session Unit := do
  Session.print (heading x.title.label x.items.length cases.length)
  if asTree then
    let t ← Session.ofExcept (Tree.ofCases defaults cases)
    printTree t
  else printPaths defaults (cases.map (·.path))

/-- Shows the cases of all scenarios of a module. -/
def inspectSuite (defaults : Config) (s : Surroundings) (target : String) (asTree : Bool) :
    Session Unit := do
  let suite ← suiteOf s target
  if suite.members.isEmpty then Session.print ("No scenarios found in " ++ target)
  else
    let groups ← suite.expand defaults
    let _ ← Session.forEach (fun g => inspectScenario defaults asTree g.1 g.2) groups
    return ()

/-- Reports a failure in words and leaves; what has no report of its own passes on. -/
def reportFailure {α : Type} (target : String) (f : Failure) : Session α := do
  if f.isA .missingFile then
    Session.print ("ERROR: Target not found: " ++ target)
    Session.leave 1
  else if f.isA .importing then
    Session.print ("ERROR: Cannot import target: " ++ target)
    let text ← Session.ofExcept f.message
    Session.print ("  " ++ f.kind.name ++ ": " ++ text)
    Session.leave 1
  else if f.isA .specification then
    Session.print "ERROR: Invalid scenario"
    let text ← Session.ofExcept f.message
    Session.print ("  " ++ text)
    Session.leave 1
  else Session.fail f

/-- An operation on a target, its failure reported. -/
def guarded {α : Type} (target : String) (x : Session α) : Session α := do
  match ← Session.attempt x with
  | .ok a => return a
  | .error f => reportFailure target f

/-- The endings of the names of scenario documents. -/
def documentEndings : List String := [".yaml", ".yml"]

/-- Shows the cases of a target. -/
def inspect (defaults : Config) (s : Surroundings) (target : String) (asTree : Bool) :
    Session Unit := do
  Session.log Log.info logger ("Inspecting scenarios from: " ++ target)
  guarded target <|
    if documentEndings.contains (Target.ending target) then
      inspectDocument defaults s target asTree
    else inspectSuite defaults s target asTree

/-- The row of a result. -/
def row (defaults : Config) (r : Execution) : Except Fault (List String) := do
  let name ← r.name defaults
  let milliseconds := r.duration.mul (Number.Binary64.ofInt 1000)
  return [name, r.outcome.name, r.reason.getD "", milliseconds.fixed 1 ++ " ms"]

/-- The line below the table of a run. -/
def totals (s : Summary) (duration : Number.Binary64) : String :=
  "\n" ++ Text.counted s.results.length "case" ++ ": " ++ toString (s.count .passed) ++
    " passed, " ++ toString (s.count .failed) ++ " failed, " ++ toString (s.count .errored) ++
    " errored in " ++ duration.fixed 2 ++ " s"

/-- Prints the results of a run as a table. -/
def printResults (defaults : Config) (s : Summary) : Session Unit := do
  let rows ← Session.ofFault (s.results.mapM (row defaults))
  if !rows.isEmpty then
    let table ← Session.ofFault
      (Text.Table.format ["Case", "Outcome", "Reason", "Time"] rows Text.Table.defaultWidth)
    Session.print table

/-- Runs the cases of a target. -/
def run (defaults : Config) (s : Surroundings) (target : String) (select : List String) :
    Session Unit := do
  Session.log Log.info logger ("Running scenarios from: " ++ target)
  let start ← Session.now
  let summary ← guarded target do
    let suite ← suiteOf s target
    suite.run defaults select
  printResults defaults summary
  let stop ← Session.now
  Session.print (totals summary (stop.sub start))
  if !summary.ok then Session.leave 1

/-- Ends a command line that cannot be followed. -/
def stopped (stop : Stop) : Session Unit := do
  match stop with
  | .explained g =>
    Session.print g.explanation
    Session.leave 0
  | .misused g message =>
    Session.complain g.usage
    Session.complain (g.program ++ ": error: " ++ message)
    Session.leave 2

/-- Sets how much is logged. -/
def prepare (r : Request) : Session Unit := do
  if r.verbose then
    Session.setLevel Log.debug
    Session.log Log.debug logger "Debug logging enabled"
  else if r.quiet then Session.setLevel Log.warning
  else Session.setLevel Log.info

/-- Follows a command line. -/
def perform (defaults : Config) (s : Surroundings) (arguments : List String) : Session Unit := do
  match Request.read arguments with
  | .error stop => stopped stop
  | .ok request =>
    prepare request
    match request.action with
    | .inspect target asTree => inspect defaults s target asTree
    | .run target select => run defaults s target select

end CaseGrid.Command
