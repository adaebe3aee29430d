import CaseGrid.Value.Written
import CaseGrid.Yaml.Data

/-
  Data seen from outside: what a piece of data is, and the pieces it holds. Values are data of
  this kind, and so are the cells of a YAML document, which may hold themselves; unfolding turns
  any piece into a value, with a sign where an enclosing container is met again.
-/

namespace CaseGrid

/-- What a piece of data is, with pieces of a type `α` in it. -/
inductive Shape (α : Type) where
  | scalar (s : Scalar)
  | list (items : List α)
  | tuple (items : List α)
  | map (entries : List (Value × α))
  | set (members : List Value)
  | again (container : Container)

/-- The view of a value. -/
def Value.shape : Value → Shape Value
  | .scalar s => .scalar s
  | .list xs => .list xs
  | .tuple xs => .tuple xs
  | .map es => .map es
  | .set xs => .set xs
  | .again c => .again c

namespace Yaml

/-- A piece of data of a document: that of a node, or a pair of two of them. Pairs are told apart
by the node that lists them and their positions in it. -/
inductive Piece where
  | node (i : Nat)
  | pair (owner position first second : Nat)
  deriving DecidableEq, Repr

namespace Data

/-- The view of a piece. -/
def shape (d : Data) : Piece → Shape Piece
  | .pair _ _ a b => .tuple [.node a, .node b]
  | .node i =>
    match (d.cells[i]?).join with
    | none => .scalar .null
    | some (.scalar s) => .scalar s
    | some (.list items) => .list (items.map .node)
    | some (.pairs items) => .list (items.mapIdx fun n p => .pair i n p.1 p.2)
    | some (.map entries) => .map (entries.map fun e => (.scalar e.1, .node e.2))
    | some (.set members) => .set (members.map .scalar)

/-- The sign for a collection met again. -/
def again : Shape Piece → Value
  | .map _ => .again .map
  | .set _ => .again .set
  | .tuple _ => .again .tuple
  | _ => .again .list

/-- Whether a shape has parts, so that it may be met inside itself. -/
def isContainer : Shape Piece → Bool
  | .scalar _ => false
  | _ => true

/-- The value of a piece inside some others. The path to a piece holds each node once, so `fuel`
need not exceed twice their number. -/
def unfoldFrom (d : Data) : Nat → List Piece → Piece → Value
  | 0, _, p => again (d.shape p)
  | fuel + 1, inside, p =>
    let s := d.shape p
    if isContainer s && inside.contains p then again s
    else
      let part := unfoldFrom d fuel (p :: inside)
      match s with
      | .scalar a => .scalar a
      | .list items => .list (items.map part)
      | .tuple items => .tuple (items.map part)
      | .map entries => .map (entries.map fun e => (e.1, part e.2))
      | .set members => .set members
      | .again c => .again c

/-- The value of a piece. -/
def unfold (d : Data) (p : Piece) : Value :=
  d.unfoldFrom (2 * d.cells.size + 2) [] p

end Data

end Yaml

end CaseGrid
