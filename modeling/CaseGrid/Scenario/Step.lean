import CaseGrid.Failure.Basic

/-
  Steps: the computation and the assertion of a scenario. A step is a function of its named
  arguments; it answers with a value or fails, and may take time. What a step does depends on
  its arguments only. Time is counted in ticks of 1/64 second and measured in seconds.
-/

namespace CaseGrid

open CaseGrid.Number (Binary64)

/-- Named arguments in the order in which they are passed. -/
abbrev Arguments := List (String × Value)

/-- The number of ticks of a second. -/
def ticksPerSecond : Nat := 64

/-- Ticks as seconds, or the fault that these are too many. -/
def secondsOfTicks (ticks : Int) : Except Fault Binary64 :=
  match Binary64.ofRatio (ticks < 0) ticks.natAbs ticksPerSecond with
  | .infinite _ => .error .timeTooLong
  | x => .ok x

/-- What a step does: the seconds that it waits, one wait after the other, and how it ends. -/
structure Reply where
  waits : List Binary64
  outcome : Except Failure Value

/-- What a scenario has as a step: a function, or something that cannot be called. -/
inductive Step where
  | function (apply : Arguments → Reply)
  | stray (v : Value)

/-- Whether a step can be called. -/
def Step.isCallable : Step → Bool
  | .function _ => true
  | .stray _ => false

/-- The two steps of a scenario. -/
inductive Role where
  | compute
  | check
  deriving DecidableEq, Repr

/-- The name of a role. -/
def Role.name : Role → String
  | .compute => "when"
  | .check => "then"

/-- A step function that answers every call with the same value at once. -/
def Step.constant (v : Value) : Step :=
  .function fun _ => ⟨[], .ok v⟩

end CaseGrid
