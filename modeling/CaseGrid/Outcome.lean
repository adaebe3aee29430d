import CaseGrid.Case
import CaseGrid.Number.Notation
import CaseGrid.Text.LetterCase

/-
  Outcomes of executed cases and summaries of runs. A case passed, failed its assertion, or
  errored; the counts of a summary are taken over all outcomes, those that did not occur
  included.
-/

namespace CaseGrid

open CaseGrid.Number (Binary64)

/-- How the execution of a case ended. -/
inductive Outcome where
  | passed
  | failed
  | errored
  deriving DecidableEq, Repr, Inhabited

namespace Outcome

/-- All outcomes, in the order of reports. -/
def all : List Outcome := [.passed, .failed, .errored]

/-- The name of an outcome in reports. -/
def name : Outcome → String
  | passed => "passed"
  | failed => "failed"
  | errored => "errored"

/-- The outcome of a name, in capitals or small letters. -/
def ofName (text : String) : Except Fault Outcome :=
  match all.find? fun o => o.name == Text.lower text with
  | some o => .ok o
  | none => .error (.unknownOutcome text)

end Outcome

/-- What is known of an executed case. -/
structure Execution where
  path : Path
  outcome : Outcome
  reason : Option String
  /-- The failure that the case ended with, if any. -/
  error : Option Failure
  /-- Seconds spent in the steps. -/
  duration : Binary64

namespace Execution

/-- The written path. -/
def name (defaults : Config) (r : Execution) : Except Fault String :=
  r.path.format defaults.separator

/-- Whether the case passed. -/
def ok (r : Execution) : Bool :=
  r.outcome == .passed

/-- A reason that is given and not empty, or else a stock one. -/
def reasonOr (stock : String) (r : Execution) : String :=
  match r.reason with
  | some "" => stock
  | some text => text
  | none => stock

/-- The failure of the computation of a case, whose text shows that of its cause. -/
def executionError (defaults : Config) (path : Path) (cause : Failure) (chained : Bool) :
    Failure :=
  match path.format defaults.separator with
  | .error e => .fault e
  | .ok title =>
    match cause.message with
    | .ok _ => .execution path title cause chained
    | .error e => e

/-- What an error stands for: the failure that the case ended with, or a stock one if there is none
or it counts as false. -/
def cause (r : Execution) : Failure :=
  (r.error.filter fun f => !f.isA .falsy).getD
    (.raised .runtimeError [.text (r.reasonOr "unknown error")])

/-- Raises what stands for an outcome that is not a pass. -/
def toExcept (defaults : Config) (r : Execution) : Except Failure Unit :=
  match r.outcome with
  | .passed => .ok ()
  | .failed => .error (Case.mismatch defaults r.path (r.reasonOr "assertion failed"))
  | .errored => .error (executionError defaults r.path r.cause true)

end Execution

/-- The results of a run, in order of execution. -/
structure Summary where
  results : List Execution

namespace Summary

/-- The results with an outcome. -/
def withOutcome (s : Summary) (o : Outcome) : List Execution :=
  s.results.filter fun r => r.outcome == o

/-- The number of results with an outcome. -/
def count (s : Summary) (o : Outcome) : Nat :=
  (s.withOutcome o).length

/-- The number of results with each outcome. -/
def counts (s : Summary) : List (Outcome × Nat) :=
  Outcome.all.map fun o => (o, s.count o)

/-- Whether every case passed. -/
def ok (s : Summary) : Bool :=
  s.results.all Execution.ok

/-- Every result is counted once. -/
theorem count_add (s : Summary) :
    s.count .passed + s.count .failed + s.count .errored = s.results.length := by
  obtain ⟨results⟩ := s
  unfold count withOutcome
  induction results with
  | nil => rfl
  | cons r rs ih =>
    simp only [List.filter_cons, List.length_cons]
    cases r.outcome <;> simp_all <;> omega

end Summary

end CaseGrid
