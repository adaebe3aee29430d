import CaseGrid.Yaml.Trouble

/-
  Feeds: sequences that may break off with trouble. What comes before the trouble can be used;
  the trouble itself counts only when somebody asks for what would come next.
-/

namespace CaseGrid.Yaml

/-- A sequence that ends or breaks off. -/
inductive Feed (α : Type) where
  | item (a : α) (rest : Feed α)
  | done
  | broken (t : Trouble)
  deriving Inhabited

namespace Feed

/-- Items before a feed. -/
def prepend {α : Type} : List α → Feed α → Feed α
  | [], f => f
  | a :: as, f => .item a (prepend as f)

/-- The number of items. -/
def length {α : Type} : Feed α → Nat
  | item _ rest => rest.length + 1
  | done => 0
  | broken _ => 0

/-- The first item and the rest. At the end a given item stands in. -/
def next {α : Type} (standIn : α) : Feed α → Except Trouble (α × Feed α)
  | item a rest => .ok (a, rest)
  | done => .ok (standIn, done)
  | broken t => .error t

end Feed

end CaseGrid.Yaml
