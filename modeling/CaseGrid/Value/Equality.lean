import CaseGrid.Value.Basic

/-
  When two values count as equal. Numbers are compared by value whatever their kind, a truth
  value being zero or one; texts, bytes, dates and times equal only their own kind. Lists and
  tuples are compared item by item, mappings and sets without regard to order. What is no number
  differs from itself, but as a part of two values that are compared, or as a key, it is known
  again by its mark.
-/

namespace CaseGrid

open CaseGrid.Number (Binary64)

namespace Scalar

/-- The whole number that a scalar stands for in a comparison. -/
def whole? : Scalar → Option Int
  | .bool b => some (if b then 1 else 0)
  | .int n => some n
  | _ => none

/-- Whether a scalar is a number, a truth value among them. -/
def isNumber : Scalar → Bool
  | .float _ => true
  | s => s.whole?.isSome

/-- Equality of scalars. -/
def same : Scalar → Scalar → Bool
  | .null, .null => true
  | .text s, .text t => s == t
  | .broken a, .broken b => a == b
  | .bytes a, .bytes b => a == b
  | .date a, .date b => a == b
  | .timestamp a, .timestamp b => a.same b
  | .float x, .float y => x.same y
  | .float x, t =>
    match t.whole? with
    | some n => x.sameInt n
    | none => false
  | s, .float y =>
    match s.whole? with
    | some n => y.sameInt n
    | none => false
  | s, t =>
    match s.whole?, t.whole? with
    | some m, some n => m == n
    | _, _ => false

/-- Whether two scalars are taken for one as parts of values and as keys. -/
def alike : Scalar → Scalar → Bool
  | .float x, .float y => x.alike y
  | s, t => s.same t

end Scalar

namespace Value

mutual

/-- Whether two values are taken for one as parts of others and as keys. -/
def alike : Value → Value → Bool
  | .scalar s, .scalar t => s.alike t
  | .list xs, .list ys => alikeItems xs ys
  | .tuple xs, .tuple ys => alikeItems xs ys
  | .map es, .map fs => es.length == fs.length && entriesIn es fs
  | .set xs, .set ys => xs.length == ys.length && itemsIn xs ys
  | .again c, .again d => c == d
  | _, _ => false
termination_by structural x => x

/-- Equality item by item. -/
def alikeItems : List Value → List Value → Bool
  | [], [] => true
  | x :: xs, y :: ys => alike x y && alikeItems xs ys
  | _, _ => false

/-- Whether each entry has an equal one among the others. -/
def entriesIn : List (Value × Value) → List (Value × Value) → Bool
  | [], _ => true
  | (k, v) :: es, fs => (fs.any fun f => alike k f.1 && alike v f.2) && entriesIn es fs

/-- Whether each item has an equal one among the others. -/
def itemsIn : List Value → List Value → Bool
  | [], _ => true
  | x :: xs, ys => (ys.any fun y => alike x y) && itemsIn xs ys

end

/-- Equality of values. -/
def same : Value → Value → Bool
  | .scalar s, .scalar t => s.same t
  | x, y => x.alike y

mutual

/-- Whether a value can be a key: it and its parts are scalars or tuples. -/
def hashable : Value → Bool
  | .scalar _ => true
  | .tuple xs => allHashable xs
  | .again c => c == .tuple
  | _ => false

/-- Whether all items can be keys. -/
def allHashable : List Value → Bool
  | [] => true
  | x :: xs => hashable x && allHashable xs

end

mutual

/-- The kind of the first part that keeps a value from being a key. -/
def unhashableKind : Value → String
  | .tuple xs => unhashableItemKind xs
  | v => v.kindName

/-- The kind of the first item that cannot be a key. -/
def unhashableItemKind : List Value → String
  | [] => ""
  | x :: xs => if hashable x then unhashableItemKind xs else unhashableKind x

end

example : same (.bool true) (.int 1) = true := by decide
example : same (.list [.int 1]) (.tuple [.int 1]) = false := by decide
example : same (.map [(.int 1, .null), (.text "a", .null)])
    (.map [(.text "a", .null), (.bool true, .null)]) = true := by decide
example : same (.float (.nan 1)) (.float (.nan 1)) = false := by decide
example : same (.list [.float (.nan 1)]) (.list [.float (.nan 1)]) = true := by decide
example : hashable (.tuple [.list []]) = false := by decide

end Value

/-- A finite assignment of values to keys, in order of first insertion. -/
abbrev Entries (α : Type) := List (Value × α)

namespace Entries

/-- What a key is assigned. -/
def get? {α : Type} : Entries α → Value → Option α
  | [], _ => none
  | (k, a) :: es, key => if k.alike key then some a else get? es key

/-- Assigns to a key; a key already there keeps its place and its form. -/
def put {α : Type} : Entries α → Value → α → Entries α
  | [], key, a => [(key, a)]
  | (k, b) :: es, key, a => if k.alike key then (k, a) :: es else (k, b) :: put es key a

/-- The assignment of pairs one after the other. -/
def ofPairs {α : Type} (pairs : List (Value × α)) : Entries α :=
  pairs.foldl (fun es p => put es p.1 p.2) []

/-- The keys in order. -/
def keys {α : Type} (es : Entries α) : List Value :=
  es.map (·.1)

end Entries

end CaseGrid
