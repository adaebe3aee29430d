import CaseGrid.Scenario.Basic

/-
  Modules: names and what they are bound to, in order of definition. Scenarios have an identity,
  so that one scenario bound to two names can be told from two scenarios that look alike. A
  module that fails while it is defined binds nothing.
-/

namespace CaseGrid

/-- A scenario and its identity. -/
structure Member where
  id : Nat
  scenario : Scenario

/-- What a name is bound to. -/
inductive Definition where
  | scenario (m : Member)
  /-- A group of names of its own. -/
  | group (members : List (String × Definition))
  /-- Anything else. -/
  | other
  /-- Nothing: the module fails here. -/
  | failure (f : Failure)
  deriving Inhabited

/-- Names and what they are bound to. -/
abbrev Definitions := List (String × Definition)

namespace Definition

mutual

/-- The failure inside a definition, if there is one. -/
def failure? : Definition → Option Failure
  | .failure f => some f
  | .group members => firstFailure? members
  | _ => none
termination_by structural d => d

/-- The first failure among definitions. -/
def firstFailure? : List (String × Definition) → Option Failure
  | [] => none
  | (_, d) :: rest =>
    match failure? d with
    | some f => some f
    | none => firstFailure? rest
termination_by structural ds => ds

end

end Definition

namespace Definitions

/-- Binds a name; a name bound already keeps its place. -/
def bind : Definitions → String → Definition → Definitions
  | [], name, d => [(name, d)]
  | (n, e) :: rest, name, d => if n = name then (n, d) :: rest else (n, e) :: bind rest name d

/-- The bindings of a module once it is defined, each name once. -/
def load (ds : Definitions) : Except Failure Definitions :=
  match Definition.firstFailure? ds with
  | some f => .error f
  | none => .ok (ds.foldl (fun bound d => bind bound d.1 d.2) [])

/-- The beginning of the names of tests, unless another is given. -/
def testPrefix : String := "test"

/-- Whether a name is one of a test, where any name may do. -/
def isTest (start : Option String) (name : String) : Bool :=
  match start with
  | some text => Text.begins text name
  | none => true

/-- A member after some others, unless it is one of them. -/
def addNew (found : List Member) (m : Member) : List Member :=
  if found.any fun other => other.id == m.id then found else found ++ [m]

/-- The scenarios bound to names of tests, each one once. -/
def scenarios (start : Option String) (ds : Definitions) : List Member :=
  ds.foldl (fun found d =>
    match d.2 with
    | .scenario m => if isTest start d.1 then addNew found m else found
    | _ => found) []

end Definitions

end CaseGrid
