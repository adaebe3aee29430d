import CaseGrid.Document.Shape
import CaseGrid.Value.Items

/-
  Schemas for data. Checking a piece of data against a schema gives every error, in the order
  of the keywords; of several errors the one nearest to the root is told, and of those of a
  choice between schemas the one deepest in a branch, unless two are equally deep and alike. An
  error shows the data it is about, which fails for numbers that are too long to be written.
-/

namespace CaseGrid

/-- The types that a schema tells apart. -/
inductive SchemaType where
  | object
  | array
  | string
  | number
  | boolean
  | null
  deriving DecidableEq, Repr

/-- The name of a type. -/
def SchemaType.name : SchemaType → String
  | object => "object"
  | array => "array"
  | string => "string"
  | number => "number"
  | boolean => "boolean"
  | null => "null"

/-- What a schema demands of a piece of data. A keyword that is for one type passes all data of
the other types. -/
inductive Schema where
  /-- All of some demands, in order. -/
  | all (demands : List Schema)
  /-- One of some types. -/
  | type (types : List SchemaType)
  /-- An object with some keys. -/
  | required (keys : List String)
  /-- An object with no other keys than these. -/
  | closed (keys : List String)
  /-- An object whose keys, as far as they are there, hold what is demanded of them. -/
  | properties (fields : List (String × Schema))
  /-- An array of items that hold what is demanded. -/
  | items (demand : Schema)
  /-- A text, an array or an object that is not empty. -/
  | nonEmpty (type : SchemaType)
  /-- Some of several schemas. Where one fits, those after it are looked at only in an exclusive
  choice, whose branches are such that no data fits two of them. -/
  | choice (exclusive : Bool) (branches : List Schema)

/-- A step from a piece of data to one in it. -/
inductive PathStep where
  | key (name : String)
  | index (i : Nat)
  deriving DecidableEq, Repr

/-- What is told of an error: a place and a message. -/
structure Report where
  path : List PathStep
  message : String
  deriving DecidableEq, Repr

/-- An error: where it is, whether it says that no branch of a choice fits, whether the data has
the type that its schema names, and what is told of it. -/
structure SchemaError where
  path : List PathStep
  isChoice : Bool
  typeFits : Bool
  report : Report
  deriving DecidableEq, Repr

namespace PathStep

/-- Keys by their texts, indices by size. -/
def order : PathStep → PathStep → Ordering
  | key a, key b => compare a b
  | index i, index j => compare i j
  | key _, index _ => .lt
  | index _, key _ => .gt

/-- Paths by their first difference. -/
def orderPaths : List PathStep → List PathStep → Ordering
  | [], [] => .eq
  | [], _ :: _ => .lt
  | _ :: _, [] => .gt
  | a :: as, b :: bs => (order a b).then (orderPaths as bs)

/-- The written form of a step. -/
def text : PathStep → String
  | key name => name
  | index i => toString i

end PathStep

namespace Report

/-- The written form of the place. -/
def location (r : Report) : String :=
  if r.path.isEmpty then "<root>" else "/".intercalate (r.path.map PathStep.text)

end Report

namespace SchemaError

/-- The error seen from one step further out. -/
def under (step : PathStep) (e : SchemaError) : SchemaError :=
  { e with
    path := step :: e.path
    report := { e.report with path := step :: e.report.path } }

/--
The order of errors: deeper ones are smaller, then those at earlier places, then those of a
choice, then those of data that has the right type.
-/
def order (a b : SchemaError) : Ordering :=
  (compare b.path.length a.path.length).then <|
    (PathStep.orderPaths a.path b.path).then <|
      (compare (!a.isChoice) (!b.isChoice)).then <| compare (!a.typeFits) (!b.typeFits)

/-- The greatest of some errors, the first of equals. -/
def greatest : SchemaError → List SchemaError → SchemaError
  | best, [] => best
  | best, e :: es => greatest (if order e best = .gt then e else best) es

/-- The error that all others are greater than. -/
def leastOf (errors : List SchemaError) : Option SchemaError :=
  errors.find? fun e => (errors.filter fun other => order other e != .gt).length = 1

/-- The error of one demand. -/
def plain (typeFits : Bool) (message : String) : SchemaError :=
  ⟨[], false, typeFits, ⟨[], message⟩⟩

/-- The error of a choice, from the errors of all branches: told is the one of them that fits
best, if there is one. -/
def ofBranches (typeFits : Bool) (message : String) (branches : List SchemaError) : SchemaError :=
  ⟨[], true, typeFits,
    match leastOf branches with
    | some e => e.report
    | none => ⟨[], message⟩⟩

end SchemaError

namespace SchemaType

/-- Whether a shape is of a type. Truth values are no numbers. -/
def fits {α : Type} (t : SchemaType) (s : Shape α) : Bool :=
  match t, s with
  | object, .map _ => true
  | array, .list _ => true
  | string, .scalar (.text _) => true
  | string, .scalar (.broken _) => true
  | number, .scalar (.int _) => true
  | number, .scalar (.float _) => true
  | boolean, .scalar (.bool _) => true
  | null, .scalar .null => true
  | object, .again c => c == .map
  | array, .again c => c == .list
  | _, _ => false

end SchemaType

/-- Data with a view of each piece, and the literal of each for messages. -/
structure Source (α : Type) where
  shape : α → Shape α
  literal : α → Except Fault String

/-- The label of a piece of data. -/
def Source.label {α : Type} (source : Source α) (a : α) : Except Fault Value :=
  match source.shape a with
  | .scalar s => (Value.scalar s).named
  | _ => (source.literal a).map Value.text

namespace Schema

/-- The entry of a key that is a text. -/
def field? {α : Type} (entries : List (Value × α)) (key : String) : Option α :=
  (entries.find? fun e => (Value.text key).same e.1).map (·.2)

/-- The types that the demands beside a keyword name. -/
def typesOf : List Schema → Option (List SchemaType)
  | [] => none
  | .type ts :: _ => some ts
  | _ :: rest => typesOf rest

/-- An item put into its place by a key, after those that are not greater. -/
def insertBy {α : Type} (key : α → Text.Points) (a : α) : List α → List α
  | [] => [a]
  | b :: bs => if key a < key b then a :: b :: bs else b :: insertBy key a bs

/-- Keys in the order of their labels. -/
def byLabel (keys : List Value) : List Value :=
  keys.foldl (fun sorted k => insertBy Value.labelPoints k sorted) []

/-- The keys of an object that are none of the given ones. -/
def extraKeys {α : Type} (entries : List (Value × α)) (keys : List String) : List Value :=
  (entries.map (·.1)).filter fun k => !keys.any fun name => (Value.text name).same k

/-- The message for keys that should not be there. -/
def extraMessage (extra : List Value) : Except Fault String := do
  let verb := if extra.length = 1 then "was" else "were"
  let shown ← (byLabel extra).mapM Value.written
  return "Additional properties are not allowed (" ++ ", ".intercalate shown ++ " " ++ verb ++
    " unexpected)"

/-- Whether a shape is an empty one of a type. -/
def isEmptyOf {α : Type} (t : SchemaType) (s : Shape α) : Bool :=
  match t, s with
  | .string, .scalar (.text "") => true
  | .array, .list [] => true
  | .object, .map [] => true
  | _, _ => false

/-- The errors of items, each at its place. -/
def itemErrors {α : Type} (check : α → Except Fault (List SchemaError)) :
    Nat → List α → Except Fault (List SchemaError)
  | _, [] => .ok []
  | i, a :: rest => do
    let here ← check a
    return here.map (SchemaError.under (.index i)) ++ (← itemErrors check (i + 1) rest)

/-- Whether a piece has one of the types named beside a demand. -/
def fitsSiblings {α : Type} (source : Source α) (siblings : Option (List SchemaType)) (a : α) :
    Bool :=
  match siblings with
  | none => false
  | some types => types.any fun t => t.fits (source.shape a)

mutual

/-- The errors of a piece of data; `siblings` are the types named beside the demand. -/
def errors {α : Type} (source : Source α) (siblings : Option (List SchemaType)) :
    Schema → α → Except Fault (List SchemaError)
  | .all demands, a => allErrors source (typesOf demands) demands a
  | .type types, a =>
    if types.any fun t => t.fits (source.shape a) then .ok []
    else do
      let shown ← source.literal a
      return [SchemaError.plain false (shown ++ " is not of type " ++
        ", ".intercalate (types.map fun t => Text.quoted t.name))]
  | .required keys, a =>
    match source.shape a with
    | .map entries =>
      .ok <| (keys.filter fun k => (field? entries k).isNone).map fun k =>
        SchemaError.plain (fitsSiblings source siblings a)
          (Text.quoted k ++ " is a required property")
    | _ => .ok []
  | .closed keys, a =>
    match source.shape a with
    | .map entries =>
      let extra := extraKeys entries keys
      if extra.isEmpty then .ok []
      else do
        let message ← extraMessage extra
        return [SchemaError.plain (fitsSiblings source siblings a) message]
    | _ => .ok []
  | .properties fields, a =>
    match source.shape a with
    | .map entries => fieldErrors source entries fields
    | _ => .ok []
  | .items demand, a =>
    match source.shape a with
    | .list parts => itemErrors (errors source none demand) 0 parts
    | _ => .ok []
  | .nonEmpty t, a =>
    if isEmptyOf t (source.shape a) then do
      let shown ← source.literal a
      return [SchemaError.plain (fitsSiblings source siblings a) (shown ++ " should be non-empty")]
    else .ok []
  | .choice exclusive branches, a => do
    match ← branchErrors source exclusive branches a with
    | (true, _) => return []
    | (false, found) =>
      let shown ← source.literal a
      return [SchemaError.ofBranches (fitsSiblings source siblings a)
        (shown ++ " is not valid under any of the given schemas") found]
termination_by structural s => s

/-- The errors of several demands, in order. -/
def allErrors {α : Type} (source : Source α) (siblings : Option (List SchemaType)) :
    List Schema → α → Except Fault (List SchemaError)
  | [], _ => .ok []
  | s :: rest, a => do
    let here ← errors source siblings s a
    return here ++ (← allErrors source siblings rest a)
termination_by structural s => s

/-- The errors of the keys that are there. -/
def fieldErrors {α : Type} (source : Source α) (entries : List (Value × α)) :
    List (String × Schema) → Except Fault (List SchemaError)
  | [] => .ok []
  | (name, s) :: rest => do
    let here ← match field? entries name with
      | some a => (errors source none s a).map (List.map (SchemaError.under (.key name)))
      | none => .ok []
    return here ++ (← fieldErrors source entries rest)
termination_by structural s => s

/-- Whether some branch has no error, and the errors of the branches, in order. In an exclusive
choice the branches after one without errors are looked at, too. -/
def branchErrors {α : Type} (source : Source α) (exclusive : Bool) :
    List Schema → α → Except Fault (Bool × List SchemaError)
  | [], _ => .ok (false, [])
  | s :: rest, a => do
    let here ← errors source none s a
    if here.isEmpty && !exclusive then return (true, [])
    let (passes, others) ← branchErrors source exclusive rest a
    return (here.isEmpty || passes, here ++ others)
termination_by structural s => s

end

/-- What is told of the errors of a piece of data, if there are any. -/
def check {α : Type} (schema : Schema) (source : Source α) (a : α) :
    Except Fault (Option Report) := do
  match ← errors source none schema a with
  | [] => return none
  | e :: es => return some (SchemaError.greatest e es).report

end Schema

end CaseGrid
