import CaseGrid.Scenario.Step

/-
  Step programs: a small language of expressions over the arguments of a step, with failures,
  waiting, a conditional, and arithmetic on whole numbers. Operands are evaluated from left to
  right, all of them before an operation is applied.
-/

namespace CaseGrid

open CaseGrid.Number (Binary64)

/-- An expression that a step evaluates. -/
inductive Program where
  | value (v : Value)
  /-- The argument of a name. -/
  | argument (name : Value)
  /-- All arguments as a mapping. -/
  | arguments
  /-- Fail with a kind and its arguments. -/
  | fail (kind : String) (arguments : List Value)
  /-- Let ticks pass first. -/
  | wait (ticks : Int) (rest : Program)
  /-- The second program if the first gives the truth value true, else the third. -/
  | choose (condition yes no : Program)
  | equal (left right : Program)
  | sum (operands : List Program)
  | product (operands : List Program)
  | less (left right : Program)
  /-- An operation on whole numbers that does not exist. -/
  | unknown (name : String) (operands : List Program)
  deriving Inhabited

namespace Program

/-- An evaluation that failed or gave an answer, with the waits in it. -/
structure Timed (α : Type) where
  waits : List Binary64
  outcome : Except Failure α

namespace Timed

/-- An answer at once. -/
def ok {α : Type} (a : α) : Timed α := ⟨[], .ok a⟩

/-- A failure at once. -/
def fail {α : Type} (f : Failure) : Timed α := ⟨[], .error f⟩

/-- One evaluation after the other; the second is left out if the first failed. -/
def andThen {α β : Type} (x : Timed α) (f : α → Timed β) : Timed β :=
  match x.outcome with
  | .ok a => ⟨x.waits ++ (f a).waits, (f a).outcome⟩
  | .error e => ⟨x.waits, .error e⟩

end Timed

/-- The argument of a name. -/
def lookUp (arguments : Arguments) (name : Value) : Except Failure Value :=
  match arguments.find? fun a => Value.same (.text a.1) name with
  | some a => .ok a.2
  | none => .error (.fault (.unboundName name.label))

/-- The whole numbers among values; any other value is a fault. -/
def integers : List Value → Except Failure (List Int)
  | [] => .ok []
  | .int n :: vs => (integers vs).map (n :: ·)
  | _ :: _ => .error (.fault .notInteger)

mutual

/-- The value of a program for some arguments. -/
def eval (arguments : Arguments) : Program → Timed Value
  | .value v => .ok v
  | .argument name => ⟨[], lookUp arguments name⟩
  | .arguments => .ok (.map (arguments.map fun a => (.text a.1, a.2)))
  | .fail kind values => .fail (Failure.ofName kind values)
  | .wait ticks rest =>
    match secondsOfTicks ticks with
    | .ok seconds => (⟨[seconds], .ok ()⟩ : Timed Unit).andThen fun _ => eval arguments rest
    | .error e => .fail (.fault e)
  | .choose condition yes no =>
    (eval arguments condition).andThen fun
      | .bool true => eval arguments yes
      | _ => eval arguments no
  | .equal left right =>
    (eval arguments left).andThen fun x =>
      (eval arguments right).andThen fun y => .ok (.bool (x.same y))
  | .sum operands =>
    (evalAll arguments operands).andThen fun vs =>
      ⟨[], (integers vs).map fun ns => .int (ns.foldl (· + ·) 0)⟩
  | .product operands =>
    (evalAll arguments operands).andThen fun vs =>
      ⟨[], (integers vs).map fun ns => .int (ns.foldl (· * ·) 1)⟩
  | .less left right =>
    (eval arguments left).andThen fun x =>
      (eval arguments right).andThen fun y =>
        ⟨[], (integers [x, y]).map fun
          | [m, n] => .bool (m < n)
          | _ => .null⟩
  | .unknown name operands =>
    (evalAll arguments operands).andThen fun vs =>
      ⟨[], (integers vs).bind fun _ => .error (.fault (.unknownOperation name))⟩
termination_by structural p => p

/-- The values of programs, one after the other. -/
def evalAll (arguments : Arguments) : List Program → Timed (List Value)
  | [] => .ok []
  | p :: ps =>
    (eval arguments p).andThen fun v => (evalAll arguments ps).andThen fun vs => .ok (v :: vs)
termination_by structural ps => ps

end

/-- The step that evaluates a program. -/
def step (p : Program) : Step :=
  .function fun arguments =>
    let r := eval arguments p
    ⟨r.waits, r.outcome⟩

end Program

end CaseGrid
