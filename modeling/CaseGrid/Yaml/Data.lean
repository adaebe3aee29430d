import CaseGrid.Value.Equality
import CaseGrid.Value.Written
import CaseGrid.Yaml.Merge
import CaseGrid.Yaml.Tagged

/-
  The data of a YAML document. Each node is built into one piece of data, shared by all that
  refer to it. A collection is there as soon as something refers to it and is filled later, one
  level after the other, so it may hold itself. A mapping must not have a key of its own twice;
  keys of the same kind that are alike count as one key.
-/

namespace CaseGrid.Yaml

/-- What a node was built into. -/
inductive Cell where
  | scalar (s : Scalar)
  | list (items : List Nat)
  /-- A list of pairs. -/
  | pairs (items : List (Nat × Nat))
  | map (entries : List (Scalar × Nat))
  | set (members : List Scalar)
  deriving Repr

/-- The state between two pieces of data. -/
structure DataState where
  nodes : Nodes
  cells : Array (Option Cell)
  /-- The collections to be filled, in order. -/
  waiting : List Nat := []

/-- A builder of data. -/
abbrev Builder (α : Type) := StateT DataState (Except Trouble) α

namespace Builder

/-- A node. -/
def node (i : Nat) : Builder Node := do return (← get).nodes.node i

/-- What a node was built into so far. -/
def cell? (i : Nat) : Builder (Option Cell) := do return ((← get).cells[i]?).join

/-- Sets what a node is built into. -/
def setCell (i : Nat) (c : Cell) : Builder Unit :=
  modify fun s => { s with cells := s.cells.setIfInBounds i (some c) }

/-- Breaks off. -/
def fail {α : Type} (t : Trouble) : Builder α := throw t

/-- Breaks off at a node of the wrong kind. -/
def wrongKind {α : Type} (n : Node) (expected : String) : Builder α :=
  fail (.bare .data ("expected a " ++ expected ++ " node, but found " ++ n.content.kindName)
    n.start)

/-- The text of a scalar, or of the default value of a mapping. -/
def textOf : Nat → Nat → Builder Text.Points
  | 0, _ => fail .tooDeep
  | fuel + 1, i => do
    let n ← node i
    match n.content with
    | .scalar text => return text
    | .sequence _ => wrongKind n "scalar"
    | .mapping pairs =>
      let nodes := (← get).nodes
      match pairs.find? fun p => (nodes.node p.1).tag == Tag.default with
      | some p => textOf fuel p.2
      | none => wrongKind n "scalar"

/-- The mark of what is no number, unlike that of any other node and of the sign for it. -/
def markOf (i : Nat) : Nat := 2 * i + 1

/-- The scalar of a tagged text; nothing if the tag is not one of a scalar. -/
def scalar? (i : Nat) (n : Node) (text : Builder Text.Points) : Builder (Option Scalar) := do
  if n.tag = Tag.str then return some (.ofPoints (← text))
  else if n.tag = Tag.null then
    let _ ← text
    return some .null
  else if n.tag = Tag.bool then
    return some (.bool (← StateT.lift (Tagged.readBool (← text))))
  else if n.tag = Tag.int then
    return some (.int (← StateT.lift (Tagged.readInteger (← text))))
  else if n.tag = Tag.float then
    return some (.float (← StateT.lift (Tagged.readDouble (markOf i) (← text))))
  else if n.tag = Tag.timestamp then
    let t ← text
    match n.content with
    | .scalar _ => return some (← StateT.lift (Tagged.readTimestamp t))
    | _ =>
      fail (.failed .type "expected string or bytes-like object, got 'list'")
  else if n.tag = Tag.binary then
    return some (.bytes (← StateT.lift (Tagged.readBinary n.start (← text))))
  else return none

/-- The empty collection of a tag. -/
def emptyCell? (tag : String) : Option Cell :=
  if tag = Tag.map then some (.map [])
  else if tag = Tag.seq then some (.list [])
  else if tag = Tag.set then some (.set [])
  else if tag = Tag.omap ∨ tag = Tag.pairs then some (.pairs [])
  else none

/-- Builds a node, unless that was done before; a collection is left to be filled. -/
def build (i : Nat) : Builder Cell := do
  match ← cell? i with
  | some c => return c
  | none =>
    let n ← node i
    match ← scalar? i n (textOf ((← get).nodes.size + 1) i) with
    | some s =>
      setCell i (.scalar s)
      return .scalar s
    | none =>
      match emptyCell? n.tag with
      | some c =>
        setCell i c
        modify fun s => { s with waiting := s.waiting ++ [i] }
        return c
      | none =>
        fail (.bare .data
          ("could not determine a constructor for the tag " ++ Text.quoted n.tag) n.start)

/-- Whether two keys of one mapping repeat each other. -/
def repeats (a b : Scalar) : Bool := a.kindName == b.kindName && a.alike b

/-- The name of the class of a node, for one that cannot be taken apart. -/
def className : Content → String
  | .scalar _ => "ScalarNode"
  | .sequence _ => "SequenceNode"
  | .mapping _ => "MappingNode"

/-- No key of a mapping's own repeats another; merge keys and collections do not count. -/
def checkKeys (n : Node) : List Scalar → List (Nat × Nat) → Builder Unit
  | _, [] => return ()
  | seen, (k, _) :: rest => do
    let key ← node k
    if key.tag = Tag.merge then checkKeys n seen rest
    else
      match ← build k with
      | .scalar s =>
        if !seen.any fun other => repeats other s then checkKeys n (s :: seen) rest
        else if s.isTooLong then fail (.failed .value Number.writingRefused)
        else
          fail (.during .data "while constructing a mapping" n.start
            ("found duplicate key " ++ s.literal) key.start)
      | _ => checkKeys n seen rest

/-- Assigns to a key; a key already there keeps its place and its form. -/
def assign : List (Scalar × Nat) → Scalar → Nat → List (Scalar × Nat)
  | [], key, v => [(key, v)]
  | (k, w) :: es, key, v => if k.alike key then (k, v) :: es else (k, w) :: assign es key v

/-- The entries of pairs, one after the other. -/
def entriesOf (n : Node) :
    List (Scalar × Nat) → List (Nat × Nat) → Builder (List (Scalar × Nat))
  | entries, [] => return entries
  | entries, (k, v) :: rest => do
    match ← build k with
    | .scalar s =>
      let _ ← build v
      entriesOf n (assign entries s v) rest
    | _ =>
      fail (.during .data "while constructing a mapping" n.start "found unhashable key"
        (← node k).start)

/-- The entries of a mapping, those taken over by merge keys first. -/
def mappingEntries (i : Nat) : Builder (List (Scalar × Nat)) := do
  let n ← node i
  match n.content with
  | .scalar text =>
    if text.isEmpty then wrongKind n "mapping"
    else fail (.failed .value "not enough values to unpack (expected 2, got 1)")
  | .sequence items =>
    match items with
    | [] => wrongKind n "mapping"
    | first :: _ =>
      fail (.failed .type ("cannot unpack non-iterable " ++
        className (← node first).content ++ " object"))
  | .mapping pairs =>
    checkKeys n [] pairs
    let s ← get
    let nodes ← StateT.lift (Merge.resolve s.nodes i)
    set { s with nodes := nodes }
    entriesOf n [] (Merge.pairsOf nodes i)

/-- Builds nodes one after the other. -/
def buildAll : List Nat → Builder Unit
  | [] => return ()
  | i :: rest => do
    let _ ← build i
    buildAll rest

/-- The items of a sequence. -/
def sequenceItems (i : Nat) : Builder (List Nat) := do
  let n ← node i
  match n.content with
  | .sequence items =>
    buildAll items
    return items
  | _ => wrongKind n "sequence"

/-- The pairs of a sequence of mappings of one pair each. -/
def pairItems (context : String) (n : Node) : List Nat → Builder (List (Nat × Nat))
  | [] => return []
  | item :: rest => do
    let m ← node item
    match m.content with
    | .mapping [(k, v)] =>
      let _ ← build k
      let _ ← build v
      return (k, v) :: (← pairItems context n rest)
    | .mapping pairs =>
      fail (.during .data context n.start
        ("expected a single mapping item, but found " ++ toString pairs.length ++ " items") m.start)
    | other =>
      fail (.during .data context n.start
        ("expected a mapping of length 1, but found " ++ other.kindName) m.start)

/-- The pairs of a node that should be a sequence of them. -/
def pairsOf (context : String) (i : Nat) : Builder (List (Nat × Nat)) := do
  let n ← node i
  match n.content with
  | .sequence items => pairItems context n items
  | other =>
    fail (.during .data context n.start ("expected a sequence, but found " ++ other.kindName)
      n.start)

/-- Fills a collection. -/
def fill (i : Nat) : Builder Unit := do
  let tag := (← node i).tag
  if tag = Tag.map then setCell i (.map (← mappingEntries i))
  else if tag = Tag.set then setCell i (.set ((← mappingEntries i).map (·.1)))
  else if tag = Tag.seq then setCell i (.list (← sequenceItems i))
  else if tag = Tag.omap then setCell i (.pairs (← pairsOf "while constructing an ordered map" i))
  else setCell i (.pairs (← pairsOf "while constructing pairs" i))

/-- Fills the waiting collections in order, and those that start to wait meanwhile. -/
def fillAll : Nat → Builder Unit
  | 0 => return ()
  | fuel + 1 => do
    let s ← get
    match s.waiting with
    | [] => return ()
    | i :: rest =>
      set { s with waiting := rest }
      fill i
      fillAll fuel

/-- The data of the nodes below a root. -/
def all (root : Nat) : Builder Unit := do
  let _ ← build root
  fillAll ((← get).nodes.size + 1)

end Builder

/-- The data of a document: a cell for each node, and the root. -/
structure Data where
  cells : Array (Option Cell)
  root : Nat

/-- The data of nodes below a root. -/
def Data.ofNodes (nodes : Nodes) (root : Nat) : Except Trouble Data := do
  let start : DataState := ⟨nodes, Array.replicate nodes.size none, []⟩
  let (_, s) ← (Builder.all root).run start
  return ⟨s.cells, root⟩

end CaseGrid.Yaml
