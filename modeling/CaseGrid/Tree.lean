import CaseGrid.Case

/-
  Trees of paths. Every node has a name and a depth and keeps its children under keys, in the order
  in which these were first seen; a child that is added has its key as its name and is one level
  deeper. A node that ends a path holds what was filed under the path; in a tree of cases no path
  begins with another one.
-/

namespace CaseGrid

/-- What a level of a tree of cases stands for. -/
inductive Level where
  | root
  | title
  | axis
  | choice
  deriving DecidableEq, Repr

namespace Level

/-- The level at a depth: below the title, variables and their values take turns. -/
def ofDepth (depth : Int) : Level :=
  if depth = 0 then root
  else if depth = 1 then title
  else if depth % 2 = 0 then axis
  else choice

/-- The word for a level. -/
def name : Level → String
  | root => "root"
  | title => "scenario"
  | axis => "variable"
  | choice => "value"

end Level

/-- A node with the trees below it, each under a key. -/
inductive Tree (α : Type) where
  | node (name : Value) (depth : Int) (leaf : Option α) (entries : List (Value × Tree α))

namespace Tree

variable {α : Type}

/-- A node at a depth with nothing below it. -/
def bareAt (depth : Int) (name : Value) : Tree α := node name depth none []

/-- A root with nothing below it. -/
def bare (name : Value) : Tree α := bareAt 0 name

/-- The name of the top node. -/
def name : Tree α → Value
  | node n _ _ _ => n

/-- The depth of the top node. -/
def depth : Tree α → Int
  | node _ d _ _ => d

/-- What the top node stands for. -/
def level (t : Tree α) : Level := Level.ofDepth t.depth

/-- What is filed under the top node. -/
def leaf : Tree α → Option α
  | node _ _ a _ => a

/-- The trees below the top node, each under its key. -/
def entries : Tree α → Entries (Tree α)
  | node _ _ _ es => es

/-- The trees below the top node, in order. -/
def children (t : Tree α) : List (Tree α) :=
  t.entries.map (·.2)

/-- The child under a key. -/
def child? (t : Tree α) (key : Value) : Option (Tree α) :=
  t.entries.get? key

/--
The trees below a node at a depth with the one under a key changed; a key that is new gets a tree at
the end, one level deeper and named like the key.
-/
def changeChild {ε : Type} (change : Tree α → Except ε (Tree α)) (depth : Int) (key : Value) :
    Entries (Tree α) → Except ε (Entries (Tree α))
  | [] => (change (bareAt (depth + 1) key)).map fun t => [(key, t)]
  | (k, t) :: es =>
    if k.alike key then (change t).map fun u => (k, u) :: es
    else (changeChild change depth key es).map ((k, t) :: ·)

/-- The node below a path. -/
def get : Path → Tree α → Except Fault (Tree α)
  | [], t => .ok t
  | segment :: rest, t => do
    match t.child? (← segment.key) with
    | some c => get rest c
    | none => .error (.unknownKey segment)

/-- The tree with the node below a path changed. -/
def change (f : Tree α → Except Fault (Tree α)) : Path → Tree α → Except Fault (Tree α)
  | [], t => f t
  | segment :: rest, .node n d a es => do
    let key ← segment.key
    return .node n d a (← changeChild (change f rest) d key es)

/-- The node with a child of a name. -/
def withChild (name : Value) (t : Tree α) : Except Fault (Tree α) :=
  match t with
  | node n d a es => do
    let key ← name.key
    return .node n d a (← changeChild .ok d key es)

/-- The node with something filed under it. -/
def withLeaf (a : α) : Tree α → Tree α
  | node n d _ es => node n d (some a) es

mutual

/-- All that is filed in a tree, a node before its children. -/
def leaves : Tree α → List α
  | .node _ _ a es => a.toList ++ leavesOf es
termination_by structural t => t

/-- All that is filed in some trees. -/
def leavesOf : List (Value × Tree α) → List α
  | [] => []
  | (_, t) :: es => leaves t ++ leavesOf es
termination_by structural es => es

end

/-- A line behind an indentation; code points that are no text stay as they are. -/
def indentLine (indent : String) : Value → Value
  | .scalar (.broken b) => .scalar (.broken (b.after (.ofString indent)))
  | line => .text (indent ++ line.label)

mutual

/-- The names below a node, one on a line, each indented once more than the one above it. -/
def outline (indent : String) : Tree α → List Value
  | .node _ _ _ es => outlineOf indent es
termination_by structural t => t

/-- The names of some nodes, each followed by its outline. -/
def outlineOf (indent : String) : List (Value × Tree α) → List Value
  | [] => []
  | (_, t) :: es =>
    t.name :: (outline indent t).map (indentLine indent) ++ outlineOf indent es
termination_by structural es => es

end

/-- The indentation of an outline unless another is given. -/
def defaultIndent : String := "  "

/-- The tree with a node for each segment of a path. -/
def grow : Path → Tree α → Except Fault (Tree α)
  | [], t => .ok t
  | segment :: rest, .node n d a es => do
    let key ← segment.key
    return .node n d a (← changeChild (grow rest) d key es)

/-- The tree of paths, nothing filed in it. -/
def ofPaths (paths : List Path) : Except Fault (Tree α) :=
  paths.foldlM (fun t path => grow path t) (bare (.text ""))

/-- Why something cannot be filed under a path. -/
inductive Conflict where
  /-- The path goes on after one that is taken. -/
  | beyond
  /-- The path is taken, or others go on after it. -/
  | repeated
  /-- A segment cannot be the name of a node. -/
  | fault (f : Fault)
  deriving Repr

/-- The tree with something filed under a path. -/
def insert : Path → Tree α → α → Except Conflict (Tree α)
  | [], .node n d leaf es, a =>
    if leaf.isSome || !es.isEmpty then .error .repeated else .ok (.node n d (some a) es)
  | segment :: rest, .node n d leaf es, a =>
    if leaf.isSome then .error .beyond
    else
      match segment.key with
      | .error f => .error (.fault f)
      | .ok key =>
        (changeChild (fun t => insert rest t a) d key es).map fun es' => .node n d none es'

/-- The failure for a case whose path cannot be filed. -/
def conflictFailure (defaults : Config) (c : Case) (conflict : Conflict) : Failure :=
  let located (line : String → String) : Failure :=
    match c.name defaults with
    | .error f => .fault f
    | .ok name =>
      match c.title with
      | .error f => .fault f
      | .ok title => .specification (.make (line name) title .null none)
  match conflict with
  | .beyond => located fun name => "path '" ++ name ++ "' extends an existing case"
  | .repeated => located fun name => "duplicate path '" ++ name ++ "'"
  | .fault f => .fault f

/-- The tree with one more case. -/
def insertCase (defaults : Config) (t : Tree Case) (c : Case) : Except Failure (Tree Case) :=
  (insert c.path t c).mapError (conflictFailure defaults c)

/-- The tree of cases, filed one after the other. -/
def ofCases (defaults : Config) (cases : List Case) : Except Failure (Tree Case) :=
  cases.foldlM (insertCase defaults) (bare (.text ""))

end Tree

end CaseGrid
