import CaseGrid.Outcome

/-
  Running cases. The computation comes first; if it fails, the case errored and the assertion
  is left out. A mismatch reported by the assertion is a failed case, any other failure of it
  an errored one. A request to stop at once ends a run, unless the assertion reports it as a
  mismatch, and so does a failure that has no text to be the reason.
-/

namespace CaseGrid

open CaseGrid.Number (Binary64)

namespace Run

/-- The name of the log of runs. -/
def logger : String := "combitest.runner"

/-- The result of a case that ended now with a failure. -/
def ended (c : Case) (outcome : Outcome) (reason : String) (f : Failure) (start : Binary64) :
    Session Execution := do
  let stop ← Session.now
  return ⟨c.path, outcome, some reason, some f, stop.sub start⟩

/-- The result of a case whose step failed, unless the failure asks to stop or has no text. -/
def errored (defaults : Config) (c : Case) (stage : String) (f : Failure) (start : Binary64) :
    Session Execution :=
  if f.isA .interruption then .fail f
  else do
    let name ← Session.ofFault (c.name defaults)
    let reason ← Session.ofExcept f.describe
    Session.log Log.debug logger ("Case " ++ name ++ " errored in " ++ stage ++ ": " ++ reason)
    ended c .errored reason f start

/-- The reason that the text of a mismatch gives: the text, or a stock one. -/
def reasonOf (text : String) : String :=
  if text = "" then "assertion failed" else text

/-- The result of a case whose assertion reported a mismatch, unless the mismatch has no text. -/
def failed (defaults : Config) (c : Case) (f : Failure) (start : Binary64) : Session Execution := do
  let name ← Session.ofFault (c.name defaults)
  let text ← Session.ofExcept f.message
  Session.log Log.debug logger ("Case " ++ name ++ " failed: " ++ text)
  ended c .failed (reasonOf text) f start

/-- Executes one case and captures how it ended. -/
def one (defaults : Config) (c : Case) : Session Execution := do
  let start ← Session.now
  match ← Session.attempt c.compute with
  | .error f => errored defaults c "computation" f start
  | .ok result =>
    match ← Session.attempt (c.check defaults result) with
    | .error f =>
      if f.isA .assertion then failed defaults c f start
      else errored defaults c "assertion" f start
    | .ok () =>
      let stop ← Session.now
      return ⟨c.path, .passed, none, none, stop.sub start⟩

/-- The line that the log keeps of a run. -/
def summaryLine (s : Summary) : String :=
  "Ran " ++ toString s.results.length ++ " case(s): " ++ toString (s.count .passed) ++
    " passed, " ++ toString (s.count .failed) ++ " failed, " ++ toString (s.count .errored) ++
    " errored"

/-- Executes every case in order. -/
def all (defaults : Config) (cases : List Case) : Session Summary := do
  let results ← Session.forEach (one defaults) cases
  let summary : Summary := ⟨results⟩
  Session.log Log.info logger (summaryLine summary)
  return summary

end Run

end CaseGrid
