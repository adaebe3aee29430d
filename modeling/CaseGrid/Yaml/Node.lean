import CaseGrid.Yaml.Event.Basic
import CaseGrid.Yaml.Feed
import CaseGrid.Yaml.Tag

/-
  The nodes of a YAML document. Nodes are known by number, so that an alias is one more use of
  the number of its anchor; a collection may hold itself. Collections are nested only so deep.
-/

namespace CaseGrid.Yaml

open CaseGrid.Text (quoted)

/-- What a node holds. -/
inductive Content where
  | scalar (text : Text.Points)
  | sequence (items : List Nat)
  | mapping (pairs : List (Nat × Nat))
  deriving DecidableEq, Repr

/-- A node: its tag, where it begins, and what it holds. -/
structure Node where
  tag : String
  start : Mark
  content : Content
  deriving Repr

/-- The nodes of a document by number. -/
abbrev Nodes := Array Node

/-- The word for a kind of node. -/
def Content.kindName : Content → String
  | scalar _ => "scalar"
  | sequence _ => "sequence"
  | mapping _ => "mapping"

/-- The node of a number; past the last one, an empty scalar. -/
def Nodes.node (nodes : Nodes) (i : Nat) : Node :=
  nodes[i]?.getD ⟨Tag.str, ⟨0, 0, 0⟩, .scalar []⟩

/-- Puts other content into a node. -/
def Nodes.put (nodes : Nodes) (i : Nat) (content : Content) : Nodes :=
  nodes.modify i fun n => { n with content := content }

/-- Gives another tag to a node. -/
def Nodes.retag (nodes : Nodes) (i : Nat) (tag : String) : Nodes :=
  nodes.modify i fun n => { n with tag := tag }

/-- The state between two nodes. -/
structure NodeState where
  events : Feed Event
  nodes : Nodes := #[]
  anchors : List (String × Nat) := []

/-- A reader of nodes. -/
abbrev NodeReader (α : Type) := StateT NodeState (Except Trouble) α

namespace NodeReader

/-- The next event, left in place. -/
def peek : NodeReader Event := do
  let (e, _) ← StateT.lift ((← get).events.next ⟨.streamEnd, ⟨0, 0, 0⟩⟩)
  return e

/-- Passes the next event. -/
def take : NodeReader Event := do
  let s ← get
  let (e, rest) ← StateT.lift (s.events.next ⟨.streamEnd, ⟨0, 0, 0⟩⟩)
  set { s with events := rest }
  return e

/-- Adds a node, known by an anchor if one is given; its number. -/
def add (anchor : Option String) (n : Node) : NodeReader Nat := do
  let s ← get
  let i := s.nodes.size
  let anchors := match anchor with
    | some name => (name, i) :: s.anchors
    | none => s.anchors
  set { s with nodes := s.nodes.push n, anchors := anchors }
  return i

/-- Puts content into a node. -/
def fill (i : Nat) (content : Content) : NodeReader Unit :=
  modify fun s => { s with nodes := s.nodes.put i content }

/-- The node that an anchor names. -/
def anchored? (name : String) : NodeReader (Option Nat) := do
  return ((← get).anchors.find? fun a => a.1 == name).map (·.2)

/-- A tag that is given, or else the one of the kind. -/
def tagOr (tag : Option String) (other : String) : String :=
  match tag with
  | none => other
  | some t => if t = "!" then other else t

/-- The tag of a scalar. -/
def scalarTag (tag : Option String) (implicit : Implicit) (text : Text.Points) : String :=
  tagOr tag (if implicit.plain then Tag.ofPlain text.chars else Tag.str)

/-- An anchor names one node only. -/
def checkAnchor (e : Event) : NodeReader Unit := do
  match e.anchor? with
  | none => return ()
  | some name =>
    match ← anchored? name with
    | none => return ()
    | some i =>
      throw (.during .nodes ("found duplicate anchor " ++ quoted name ++ "; first occurrence")
        ((← get).nodes.node i).start "second occurrence" e.start)

/--
The most collections that are nested in each other. Reading takes two calls inside one another for
each of them, and no more than 1000 calls may be under way at once; 488 collections is what this
leaves to a text that is loaded some two dozen calls below the start of a program. What is done with
a document after it was read is less deep and has no such limit here.
-/
def greatestDepth : Nat := 488

/-- A collection in so many others is too deep. -/
def checkDepth (depth : Nat) : NodeReader Unit :=
  if greatestDepth ≤ depth then throw .tooDeep else return ()

mutual

/-- A node in so many collections, with everything in it; its number. -/
def node : Nat → Nat → NodeReader Nat
  | _, 0 => return 0
  | depth, fuel + 1 => do
    let e ← peek
    match e.kind with
    | .reference name =>
      let _ ← take
      match ← anchored? name with
      | some i => return i
      | none => throw (.bare .nodes ("found undefined alias " ++ quoted name) e.start)
    | _ =>
      checkAnchor e
      let _ ← take
      match e.kind with
      | .scalar anchor tag implicit text =>
        add anchor ⟨scalarTag tag implicit text, e.start, .scalar text⟩
      | .sequenceStart anchor tag => do
        checkDepth depth
        let i ← add anchor ⟨tagOr tag Tag.seq, e.start, .sequence []⟩
        let items ← items (depth + 1) fuel
        fill i (.sequence items)
        return i
      | .mappingStart anchor tag => do
        checkDepth depth
        let i ← add anchor ⟨tagOr tag Tag.map, e.start, .mapping []⟩
        let pairs ← pairs (depth + 1) fuel
        fill i (.mapping pairs)
        return i
      | _ => return 0

/-- The items of a sequence up to its end, each of them in so many collections. -/
def items : Nat → Nat → NodeReader (List Nat)
  | _, 0 => return []
  | depth, fuel + 1 => do
    if (← peek).kind = .sequenceEnd then
      let _ ← take
      return []
    else
      let i ← node depth fuel
      return i :: (← items depth fuel)

/-- The pairs of a mapping up to its end, each part of them in so many collections. -/
def pairs : Nat → Nat → NodeReader (List (Nat × Nat))
  | _, 0 => return []
  | depth, fuel + 1 => do
    if (← peek).kind = .mappingEnd then
      let _ ← take
      return []
    else
      let k ← node depth fuel
      let v ← node depth fuel
      return (k, v) :: (← pairs depth fuel)

end

/-- The root of the only document, if there is one. -/
def single : NodeReader (Option Nat) := do
  let _ ← take
  if (← peek).kind = .streamEnd then return none
  let _ ← take
  let root ← node 0 ((← get).events.length + 1)
  let _ ← take
  let e ← peek
  if e.kind ≠ .streamEnd then
    throw (.during .nodes "expected a single document in the stream"
      ((← get).nodes.node root).start "but found another document" e.start)
  return some root

end NodeReader

/-- The nodes of the only document of a text, and its root. -/
def Node.ofEvents (events : Feed Event) : Except Trouble (Nodes × Option Nat) := do
  let (root, s) ← NodeReader.single.run { events := events }
  return (s.nodes, root)

end CaseGrid.Yaml
