import CaseGrid.Text.Digit
import CaseGrid.Text.Pattern
import CaseGrid.Text.Quoted
import CaseGrid.Text.Split

/-
  Grammars of command lines. A command line has options and one operand; an option is a flag or
  takes one or more of the arguments that follow. Names of options that begin with two dashes may
  be cut short, short names may be run together, and after two dashes alone nothing is an option.
  Arguments that fit nowhere are left over. Main definition: `Grammar.read`.
-/

namespace CaseGrid.Command

open CaseGrid.Text (begins)

/-- What an option stands for. -/
inductive Switch where
  | help
  | verbose
  | quiet
  | tree
  | select
  deriving DecidableEq, Repr

/-- An option. -/
structure OptionRule where
  switch : Switch
  /-- All of its names. -/
  names : List String
  /-- Whether it takes one or more values, as opposed to none. -/
  takesValues : Bool
  deriving DecidableEq, Repr

/-- A grammar, with the texts that explain it. -/
structure Grammar where
  program : String
  usage : String
  explanation : String
  options : List OptionRule
  /-- The name of the operand. -/
  operand : String
  /-- Whether the operand takes all arguments after it with it. -/
  takesRest : Bool
  deriving Repr

/-- Why reading a command line ends early. -/
inductive Stop where
  /-- The explanation was asked for. -/
  | explained (g : Grammar)
  | misused (g : Grammar) (message : String)
  deriving Repr

namespace OptionRule

/-- The rule as messages name it. -/
def label (o : OptionRule) : String := "/".intercalate o.names

end OptionRule

/-- An option that an argument names, and the value that it was given in the same argument. -/
structure Hit where
  rule : OptionRule
  name : String
  value : Option String
  deriving Repr

/-- What an argument is taken for. -/
inductive Item where
  | operand (text : String)
  /-- The two dashes that no option comes after. -/
  | mark
  | option (hit : Hit) (text : String)
  /-- Something that looks like an option but is none. -/
  | stray (text : String)
  deriving Repr

namespace Item

/-- The argument itself. -/
def text : Item → String
  | operand s => s
  | mark => "--"
  | option _ s => s
  | stray s => s

/-- The argument of an operand. -/
def operand? : Item → Option String
  | operand s => some s
  | _ => none

/-- Whether an item is the mark. -/
def isMark : Item → Bool
  | mark => true
  | _ => false

end Item

/-- What was found on a command line. -/
structure Found where
  given : List (Switch × List String) := []
  /-- The operand, with the arguments that it took with it. -/
  operand : Option (List String) := none
  /-- The arguments that are left over. -/
  extras : List String := []
  deriving Repr

namespace Grammar

/-- All names of options, each with its rule. -/
def names (g : Grammar) : List (String × OptionRule) :=
  g.options.flatMap fun o => o.names.map fun n => (n, o)

/-- The option of a name. -/
def option? (g : Grammar) (name : String) : Option OptionRule :=
  (g.names.find? fun n => n.1 == name).map (·.2)

/-- A text as far as the first equals sign, and what comes after that. -/
def cutAtEquals : List Char → List Char × Option (List Char)
  | [] => ([], none)
  | '=' :: rest => ([], some rest)
  | c :: rest =>
    let (before, after) := cutAtEquals rest
    (c :: before, after)

/-- The options that an argument with two dashes may be short for. -/
def longHits (g : Grammar) (text : String) : List Hit :=
  let (before, after) := cutAtEquals text.toList
  (g.names.filter fun n => begins (String.ofList before) n.1).map fun n =>
    ⟨n.2, n.1, after.map String.ofList⟩

/-- The options that an argument with one dash may begin with or be short for. -/
def shortHits (g : Grammar) (text : String) : List Hit :=
  g.names.filterMap fun n =>
    if n.1.toList == text.toList.take 2 then
      some ⟨n.2, n.1, some (String.ofList (text.toList.drop 2))⟩
    else if begins text n.1 then some ⟨n.2, n.1, none⟩
    else none

/-- The options that an argument may stand for. -/
def hits (g : Grammar) (text : String) : List Hit :=
  if begins "--" text then g.longHits text else g.shortHits text

/-- The shape of a negative number. -/
def negativeNumber : Text.Pattern :=
  let digit : Text.Pattern := .one fun c => (Text.digitValue? c).isSome
  .seq (.char '-') (.alt (.plus digit) (.chain [.star digit, .char '.', .plus digit]))

/-- What an argument is taken for, before the mark. -/
def classify (g : Grammar) (text : String) : Except Stop Item :=
  if !begins "-" text then .ok (.operand text)
  else
    match g.option? text with
    | some o => .ok (.option ⟨o, text, none⟩ text)
    | none =>
      if text.length = 1 then .ok (.operand text)
      else
        let (before, after) := cutAtEquals text.toList
        match g.option? (String.ofList before), after with
        | some o, some v =>
          .ok (.option ⟨o, String.ofList before, some (String.ofList v)⟩ text)
        | _, _ =>
          match g.hits text with
          | [hit] => .ok (.option hit text)
          | [] =>
            if negativeNumber.acceptsLine text.toList || text.toList.contains ' ' then
              .ok (.operand text)
            else .ok (.stray text)
          | several =>
            .error (.misused g ("ambiguous option: " ++ text ++ " could match " ++
              ", ".intercalate (several.map Hit.name)))

/-- What the arguments are taken for. -/
def items (g : Grammar) : List String → Except Stop (List Item)
  | [] => .ok []
  | text :: rest =>
    if text = "--" then .ok (.mark :: rest.map .operand)
    else do
      let item ← g.classify text
      return item :: (← items g rest)

/-- The failure of an option. -/
def faulty {α : Type} (g : Grammar) (o : OptionRule) (message : String) : Except Stop α :=
  .error (.misused g ("argument " ++ o.label ++ ": " ++ message))

/-- What an argument with options in it gives: the options with their values, and the items that
come after. -/
structure Unfolded where
  given : List (Switch × List String)
  rest : List Item

/-- The values of an option that was given none in its own argument. -/
def takeValues (g : Grammar) (o : OptionRule) (rest : List Item) : Except Stop Unfolded :=
  if o.takesValues then
    let values := (rest.takeWhile fun i => i.operand?.isSome).filterMap Item.operand?
    if values.isEmpty then g.faulty o "expected at least one argument"
    else .ok ⟨[(o.switch, values)], rest.drop values.length⟩
  else .ok ⟨[(o.switch, [])], rest⟩

/-- The values in an argument that names an option as well; two dashes alone are none. -/
def ownValues (text : String) : List String :=
  if text = "--" then [] else [text]

/-- The options of an argument, which are one or several short ones run together. A flag takes no
value, so that what follows a short one has to begin with the letter of another option. `fuel`
bounds their number. -/
def unfold (g : Grammar) : Nat → Hit → List Item → Except Stop Unfolded
  | 0, hit, rest => g.takeValues hit.rule rest
  | fuel + 1, hit, rest =>
    match hit.value with
    | none => g.takeValues hit.rule rest
    | some text =>
      if hit.rule.takesValues then .ok ⟨[(hit.rule.switch, ownValues text)], rest⟩
      else
        let ignored := g.faulty hit.rule ("ignored explicit argument " ++ Text.quoted text)
        match text.toList with
        | [] => ignored
        | c :: cs =>
          let name := String.ofList ['-', c]
          match if begins "--" hit.name then none else g.option? name with
          | none => ignored
          | some o => do
            let value := if cs.isEmpty then none else some (String.ofList cs)
            let u ← unfold g fuel ⟨o, name, value⟩ rest
            return { u with given := (hit.rule.switch, []) :: u.given }

/-- The operand at the front, and the items after it. -/
def takeOperand (g : Grammar) (is : List Item) : Option (List String × List Item) :=
  match is.dropWhile Item.isMark with
  | .operand text :: rest =>
    if g.takesRest then some (is.map Item.text, [])
    else some ([text], rest.dropWhile Item.isMark)
  | _ => none

/-- What is found in the items, after what was found before. `fuel` bounds their number. -/
def scan (g : Grammar) : Nat → List Item → Found → Except Stop Found
  | 0, _, found => .ok found
  | _, [], found => .ok found
  | fuel + 1, item :: rest, found =>
    match item with
    | .stray text => scan g fuel rest { found with extras := found.extras ++ [text] }
    | .option hit text => do
      let u ← g.unfold text.length hit rest
      if u.given.any fun o => o.1 == .help then throw (.explained g)
      scan g fuel u.rest { found with given := found.given ++ u.given }
    | _ =>
      match if found.operand.isNone then g.takeOperand (item :: rest) else none with
      | some (operand, rest') => scan g fuel rest' { found with operand := some operand }
      | none => scan g fuel rest { found with extras := found.extras ++ [item.text] }

/-- What is found in some arguments. -/
def read (g : Grammar) (arguments : List String) : Except Stop Found := do
  let is ← g.items arguments
  g.scan is.length is {}

/-- The failure of a command line without its operand. -/
def lacking (g : Grammar) : Stop :=
  .misused g ("the following arguments are required: " ++ g.operand)

end Grammar

end CaseGrid.Command
