import CaseGrid.Expansion
import CaseGrid.Module
import CaseGrid.Tree

/-
  Collection of tests from a module: every scenario bound to the name of a test becomes a node,
  below it a node for each segment of the paths of its cases, and at the ends the cases. Two
  scenarios of one module or group must not have the same title, because the nodes below them
  would have the same identifiers; the second one is a node that fails.
-/

namespace CaseGrid

/-- A module or group that offers names, and the scenarios found in it by title. -/
structure Host where
  id : String
  /-- Whether a name is one of a test. -/
  accepts : String → Bool
  found : Entries Member

/-- The node of a scenario. -/
structure Collector where
  id : String
  scenario : Scenario
  /-- Why its cases are not collected. -/
  conflict : Option SpecificationError

/-- A node below a scenario. -/
inductive CaseNode where
  /-- A segment that is not the last of a path. -/
  | group (id : String) (children : List CaseNode)
  /-- A case that was executed. -/
  | item (id : String) (case : Case) (outcome : Except Failure Unit)

/-- What became of a name that was offered. -/
inductive Offer where
  | ignored
  /-- A group, with what became of its names. -/
  | group (members : List (String × Offer))
  /-- The nodes of the scenario, each with what is below it. -/
  | scenarios (nodes : List (Collector × Except Failure (List CaseNode)))

namespace Collection

/-- The name of the log of collection. -/
def logger : String := "combitest.pytest_plugin"

/-- The identifier of a node below another one. -/
def nodeId (parent : String) (name : String) : String :=
  parent ++ "::" ++ name

/-- A host in which nothing was found yet. -/
def host (id : String) : Host := ⟨id, Text.begins Definitions.testPrefix, []⟩

/-- The failure of a second scenario with the title of another one. -/
def conflictOf (title : Value) (name : String) : SpecificationError :=
  .make ("title is already used in this module or class (bound to '" ++ name ++ "')") title .null
    none

/-- The nodes for a scenario bound to a name; none for one that was found before. -/
def makeNodes (h : Host) (name : String) (m : Member) : Session (List Collector × Host) := do
  let title ← Session.ofFault m.scenario.title.key
  let id := nodeId h.id title.label
  match h.found.get? title with
  | some before =>
    if before.id = m.id then return ([], h)
    else
      Session.log Log.error logger
        ("Duplicate scenario title in " ++ h.id ++ ": " ++ title.label)
      return ([⟨id, m.scenario, some (conflictOf title name)⟩], h)
  | none => return ([⟨id, m.scenario, none⟩], { h with found := h.found ++ [(title, m)] })

/-- What a host answers to a name: nodes for a scenario that is bound to the name of a test. -/
def answer (h : Host) (name : String) : Definition → Session (Option (List Collector) × Host)
  | .scenario m =>
    if h.accepts name then
      Session.bind (makeNodes h name m) fun (collectors, h') => Session.pure (some collectors, h')
    else Session.pure (none, h)
  | _ => Session.pure (none, h)

mutual

/-- Executes the cases of a tree; a node that holds a case is an item. -/
def executeNode (defaults : Config) (parent : String) : Tree Case → Session CaseNode
  | .node name _ leaf entries =>
    let id := nodeId parent name.label
    match leaf with
    | some c =>
      Session.bind (Session.attempt (c.execute defaults)) fun outcome =>
        Session.pure (.item id c (outcome.map fun _ => ()))
    | none =>
      Session.bind (executeNodes defaults id entries) fun nodes => Session.pure (.group id nodes)
termination_by structural t => t

/-- Executes the cases of some trees. -/
def executeNodes (defaults : Config) (parent : String) :
    List (Value × Tree Case) → Session (List CaseNode)
  | [] => Session.pure []
  | (_, t) :: es =>
    Session.bind (executeNode defaults parent t) fun node =>
      Session.bind (executeNodes defaults parent es) fun nodes => Session.pure (node :: nodes)
termination_by structural es => es

end

/-- The tree of the cases of a scenario, unless there is a conflict. -/
def collect (defaults : Config) (c : Collector) : Session (Tree Case) :=
  match c.conflict with
  | some e => Session.fail (.specification e)
  | none => do
    let cases ← Expansion.expand defaults c.scenario
    Session.log Log.debug logger
      ("Collected " ++ toString cases.length ++ " case(s) for " ++ c.id)
    let root ← Session.ofExcept (Tree.ofCases defaults cases)
    Session.ofFault (root.get [c.scenario.title])

/-- Collects a scenario and executes its cases. -/
def run (defaults : Config) (c : Collector) :
    Session (Collector × Except Failure (List CaseNode)) := do
  match ← Session.attempt (collect defaults c) with
  | .error e => return (c, .error e)
  | .ok t =>
    let nodes ← executeNodes defaults c.id t.entries
    return (c, .ok nodes)

mutual

/-- Offers what a name is bound to. -/
def offer (defaults : Config) (h : Host) (name : String) :
    Definition → Session (Offer × Host)
  | .scenario m =>
    Session.bind (answer h name (.scenario m)) fun
      | (none, h') => Session.pure (.ignored, h')
      | (some collectors, h') =>
        Session.bind (Session.forEach (run defaults) collectors) fun nodes =>
          Session.pure (.scenarios nodes, h')
  | .group members =>
    Session.bind (offerAll defaults (host (nodeId h.id name)) members) fun offers =>
      Session.pure (.group offers, h)
  | .other => Session.pure (.ignored, h)
  | .failure f => Session.fail f
termination_by structural d => d

/-- Offers all names of a module or group, in order. -/
def offerAll (defaults : Config) (h : Host) :
    List (String × Definition) → Session (List (String × Offer))
  | [] => Session.pure []
  | (name, d) :: rest =>
    Session.bind (offer defaults h name d) fun (found, h') =>
      Session.bind (offerAll defaults h' rest) fun others =>
        Session.pure ((name, found) :: others)
termination_by structural ds => ds

end

/-- The text that is shown for a failed case: only a mismatch has one of its own. -/
def failureText (f : Failure) : Option String :=
  match f with
  | .assertion _ _ _ => f.message.toOption
  | _ => none

end Collection

end CaseGrid
