import CaseGrid.Path

/-
  Variables: a name and the candidate values in order, each with a name of its own. A
  candidate may be described by a pair; a description that is no pair is a fault.
-/

namespace CaseGrid

/-- A candidate value and its name. -/
structure Choice where
  name : Value
  value : Value
  deriving Repr, Inhabited

/-- A named axis of variation. -/
structure Variable where
  name : Value
  values : List Choice
  deriving Repr, Inhabited

namespace Choice

/-- The candidate that the items of a value describe. -/
def ofValue (v : Value) : Except Fault Choice :=
  match v.items? with
  | none => .error (.notSpread v.kindName)
  | some [name, value] => .ok ⟨name, value⟩
  | some [] => .error .missingBoth
  | some [_] => .error .missingValue
  | some parts => .error (.tooManyParts parts.length)

/-- The written form of a candidate. -/
def literal (c : Choice) : String :=
  "Value(name=" ++ c.name.literal ++ ", value=" ++ c.value.literal ++ ")"

end Choice

/-- A tuple of parts that are written already. -/
def tupleLiteral (parts : List String) : String :=
  Container.tuple.enclose parts

namespace Variable

/-- The variable whose candidates the items of a value describe. -/
def ofItems (name items : Value) : Except Fault Variable := do
  let parts ← items.items
  let values ← parts.mapM Choice.ofValue
  return ⟨name, values⟩

/-- The variable whose candidates are given by name, in order. -/
def ofNamed (name : Value) (named : Entries Value) : Except Fault Variable :=
  if named.all fun e => e.1.text?.isSome then
    .ok ⟨name, named.map fun e => ⟨e.1, e.2⟩⟩
  else .error .nameNotText

/-- The variable of some values, each named by its label. -/
def ofValues (name : Value) (values : List Value) : Variable :=
  ⟨name, values.map fun v => ⟨.text v.label, v⟩⟩

/-- The variable of the whole numbers from zero up to below `n`. -/
def ofRange (name : Value) (n : Nat) : Variable :=
  ofValues name ((List.range n).map fun i => .int (Int.ofNat i))

/-- The names of the candidates. -/
def choiceNames (v : Variable) : List Value :=
  v.values.map (·.name)

/-- The written form of a variable. -/
def literal (v : Variable) : String :=
  "Variable(name=" ++ v.name.literal ++ ", values=" ++
    tupleLiteral (v.values.map Choice.literal) ++ ")"

end Variable

/-- What a scenario lists among its variables: a variable, or something that is none. -/
inductive Item where
  | declared (v : Variable)
  | stray (v : Value)
  deriving Repr

namespace Item

/-- The name of an item, null for one that is no variable. -/
def name : Item → Value
  | declared v => v.name
  | stray _ => .null

/-- The written form of an item. -/
def literal : Item → String
  | declared v => v.literal
  | stray v => v.literal

/-- The variable, or the fault that an item has no such part. -/
def part (name : String) : Item → Except Fault Variable
  | declared v => .ok v
  | stray v => .error (.noPart v.kindName name)

/-- The word for a function that belongs to a value. -/
def methodKind : String := "builtin_function_or_method"

/-- The number of candidates. A mapping has something else under that name. -/
def valueCount : Item → Except Fault Nat
  | stray (.map _) => .error (.noLength methodKind)
  | item => (item.part "values").map fun v => v.values.length

/-- The candidates. A mapping has something else under that name. -/
def values : Item → Except Fault (List Choice)
  | stray (.map _) => .error (.notIterable methodKind)
  | item => (item.part "values").map Variable.values

end Item

end CaseGrid
