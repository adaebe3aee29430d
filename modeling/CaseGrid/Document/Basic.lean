import CaseGrid.Document.Schema
import CaseGrid.Scenario.Basic

/-
  Scenario documents: a title, variables with their candidates, and perhaps a name for the
  result. The candidates of a variable are written as a mapping from names, or as a list whose
  items are candidates with a name or plain scalars, which are named by their labels. Reading a
  document gives every candidate its name, in the order written.
-/

namespace CaseGrid

/-- A variable of a document: its name, and its candidates with theirs. -/
structure Axis (α : Type) where
  name : Value
  values : List (Value × α)
  deriving Repr

/-- A scenario as a document describes it. -/
structure Document (α : Type) where
  title : Value
  axes : List (Axis α)
  resultName : Option Value
  deriving Repr

namespace Document

/-- A text that is not empty. -/
def labelSchema : Schema :=
  .all [.type [.string], .nonEmpty .string]

/-- A candidate with a name. -/
def choiceSchema : Schema :=
  .all [.type [.object], .required ["name", "value"], .closed ["name", "value"],
    .properties [("name", .all [.type [.string, .number, .boolean]]), ("value", .all [])]]

/-- The candidates of a variable. -/
def valuesSchema : Schema :=
  .all [.choice true [
    .all [.type [.array], .nonEmpty .array, .items (.all [.choice false [
      choiceSchema, .all [.type [.string, .number, .boolean, .null]]]])],
    .all [.type [.object], .nonEmpty .object]]]

/-- A variable. -/
def axisSchema : Schema :=
  .all [.type [.object], .required ["name", "values"], .closed ["name", "values"],
    .properties [("name", labelSchema), ("values", valuesSchema)]]

/-- What a document must be. -/
def schema : Schema :=
  .all [.type [.object], .required ["title", "variables"],
    .closed ["title", "result_name", "variables"],
    .properties [("title", labelSchema), ("result_name", labelSchema),
      ("variables", .all [.type [.array], .nonEmpty .array, .items axisSchema])]]

section Reading

variable {α : Type}

/-- The entries of a piece of data that is an object. -/
def entriesOf (source : Source α) (a : α) : List (Value × α) :=
  match source.shape a with
  | .map entries => entries
  | _ => []

/-- The label of what a key holds, if the key is there. -/
def labelAt? (source : Source α) (a : α) (key : String) : Except Fault (Option Value) :=
  match Schema.field? (entriesOf source a) key with
  | some part => (source.label part).map some
  | none => .ok none

/-- The label of what a key holds, where the schema demands the key. -/
def labelAt (source : Source α) (a : α) (key : String) : Except Fault Value :=
  (labelAt? source a key).map fun label => label.getD (.text "")

/-- A candidate in a list: one with a name, or a scalar named by its label. -/
def choiceOf (source : Source α) (a : α) : Except Fault (Value × α) :=
  match source.shape a with
  | .map entries =>
    (labelAt source a "name").map fun name => (name, (Schema.field? entries "value").getD a)
  | _ => (source.label a).map fun name => (name, a)

/-- The candidates of a variable, each with its name. -/
def choicesOf (source : Source α) (a : α) : Except Fault (List (Value × α)) :=
  match source.shape a with
  | .map entries => entries.mapM fun e => e.1.named.map fun name => (name, e.2)
  | .list parts => parts.mapM (choiceOf source)
  | _ => .ok []

/-- The candidates of a piece of data that is a variable. -/
def valuesOf (source : Source α) (a : α) : Except Fault (List (Value × α)) :=
  match Schema.field? (entriesOf source a) "values" with
  | some values => choicesOf source values
  | none => .ok []

/-- A variable, with all candidates named. -/
def axisOf (source : Source α) (a : α) : Except Fault (Axis α) := do
  let name ← labelAt source a "name"
  return ⟨name, ← valuesOf source a⟩

/-- The variables of a piece of data that is a document. -/
def axesOf (source : Source α) (a : α) : Except Fault (List (Axis α)) :=
  match (Schema.field? (entriesOf source a) "variables").map source.shape with
  | some (.list parts) => parts.mapM (axisOf source)
  | _ => .ok []

/-- The document that data keeping the schema describes. -/
def ofData (source : Source α) (a : α) : Except Fault (Document α) := do
  let title ← labelAt source a "title"
  let axes ← axesOf source a
  return ⟨title, axes, ← labelAt? source a "result_name"⟩

/-- The document with each candidate value replaced. -/
def map {β : Type} (f : α → β) (d : Document α) : Document β :=
  ⟨d.title, d.axes.map fun x => ⟨x.name, x.values.map fun v => (v.1, f v.2)⟩, d.resultName⟩

end Reading

/-- A candidate in full. -/
def choiceValue (c : Value × Value) : Value :=
  .map [(.text "name", c.1), (.text "value", c.2)]

/-- A variable in full. -/
def axisValue (x : Axis Value) : Value :=
  .map [(.text "name", x.name), (.text "values", .list (x.values.map choiceValue))]

/-- A document in full, every candidate with its name. -/
def value (d : Document Value) : Value :=
  .map <| [(.text "title", d.title), (.text "variables", .list (d.axes.map axisValue))] ++
    (match d.resultName with
      | some name => [(.text "result_name", name)]
      | none => [])

/-- The variables of a document. -/
def declared (d : Document Value) : List Variable :=
  d.axes.map fun x => ⟨x.name, x.values.map fun v => ⟨v.1, v.2⟩⟩

/-- The scenario of a document and two steps. -/
def scenario (d : Document Value) (compute check : Step) : Scenario :=
  ⟨d.title, d.declared.map .declared, compute, check, d.resultName.getD defaultResultName⟩

end Document

end CaseGrid
