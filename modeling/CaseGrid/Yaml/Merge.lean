import CaseGrid.Yaml.Node

/-
  Merge keys. A mapping takes over the pairs of the mappings that its merge keys name, before
  its own; of a list of mappings, the pairs of the last come first. Taking over is done in place
  and once, so what a mapping holds depends on which of the others were merged before.
-/

namespace CaseGrid.Yaml

namespace Merge

/-- The pairs of a mapping, none of any other node. -/
def pairsOf (nodes : Nodes) (i : Nat) : List (Nat × Nat) :=
  match (nodes.node i).content with
  | .mapping pairs => pairs
  | _ => []

/-- Whether a pair has a merge key. -/
def isMerge (nodes : Nodes) (p : Nat × Nat) : Bool :=
  (nodes.node p.1).tag == Tag.merge

/-- The keys for a default value become texts. -/
def retagDefaults (nodes : Nodes) (pairs : List (Nat × Nat)) : Nodes :=
  pairs.foldl (fun ns p => if (ns.node p.1).tag == Tag.default then ns.retag p.1 Tag.str else ns)
    nodes

/-- The number of merge keys of all nodes. -/
def count (nodes : Nodes) : Nat :=
  nodes.toList.foldl (fun total n =>
    match n.content with
    | .mapping pairs => total + (pairs.filter (isMerge nodes)).length
    | _ => total) 0

/-- The trouble of a merge key with a value of the wrong kind. -/
def wrongKind (nodes : Nodes) (i v : Nat) (expected : String) : Trouble :=
  .during .data "while constructing a mapping" (nodes.node i).start
    ("expected " ++ expected ++ " for merging, but found " ++ (nodes.node v).content.kindName)
    (nodes.node v).start

/--
The pairs of the mappings in a list that a merge key of a mapping names, those of the last one
first, each mapping resolved before.
-/
def gather (resolve : Nat → Nodes → Except Trouble Nodes) (i : Nat) :
    List Nat → Nodes → List (List (Nat × Nat)) → Except Trouble (Nodes × List (List (Nat × Nat)))
  | [], nodes, groups => .ok (nodes, groups)
  | item :: rest, nodes, groups =>
    match (nodes.node item).content with
    | .mapping _ => do
      let nodes ← resolve item nodes
      gather resolve i rest nodes (pairsOf nodes item :: groups)
    | _ => .error (wrongKind nodes i item "a mapping")

/--
The nodes after the merge keys of a mapping from a position on are resolved, with `taken` the
pairs taken over so far. Every round removes a merge key, so `fuel` need not exceed their number
by more than one.
-/
def resolveFrom : Nat → Nat → Nat → List (Nat × Nat) → Nodes → Except Trouble Nodes
  | 0, _, _, _, nodes => .ok nodes
  | fuel + 1, i, position, taken, nodes =>
    let pairs := pairsOf nodes i
    let rest := pairs.drop position
    let run := rest.takeWhile fun p => !isMerge nodes p
    let nodes := retagDefaults nodes run
    match rest.drop run.length with
    | [] => .ok (if taken.isEmpty then nodes else nodes.put i (.mapping (taken ++ pairs)))
    | (_, v) :: after =>
      let next := position + run.length
      let nodes := nodes.put i (.mapping (pairs.take next ++ after))
      match (nodes.node v).content with
      | .mapping _ => do
        let nodes ← resolveFrom fuel v 0 [] nodes
        resolveFrom fuel i next (taken ++ pairsOf nodes v) nodes
      | .sequence items => do
        let (nodes, groups) ← gather (fun item => resolveFrom fuel item 0 []) i items nodes []
        resolveFrom fuel i next (taken ++ groups.flatten) nodes
      | .scalar _ => .error (wrongKind nodes i v "a mapping or list of mappings")

/-- The nodes after the merge keys of a mapping are resolved. -/
def resolve (nodes : Nodes) (i : Nat) : Except Trouble Nodes :=
  resolveFrom (count nodes + 1) i 0 [] nodes

end Merge

end CaseGrid.Yaml
