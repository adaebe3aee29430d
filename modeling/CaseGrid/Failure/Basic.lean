import CaseGrid.Failure.Place

/-
  Everything that can stop an operation: what a step or a module raises, a malformed scenario,
  the two errors that stand for the outcome of a single case, and faults. Every failure has a
  kind; its text is formed when it is asked for, which may itself fail.
-/

namespace CaseGrid

/-- A malformed scenario, with the title and the variable if they are known. -/
structure SpecificationError where
  message : String
  scenario : Value
  variableName : Value
  /-- The kind of the error that was found first, if this one reports it. -/
  cause : Option String
  deriving Repr

namespace SpecificationError

/-- What is known of the place: nothing for a null. -/
def placeOf (what : String) : Value → List String
  | .null => []
  | v => [what ++ " '" ++ v.label ++ "'"]

/-- The place in words, before the message. -/
def located (scenario variableName : Value) (message : String) : String :=
  match placeOf "scenario" scenario ++ placeOf "variable" variableName with
  | [] => message
  | places => ", ".intercalate places ++ ": " ++ message

/-- An error at a place. -/
def make (message : String) (scenario variableName : Value) (cause : Option String) :
    SpecificationError :=
  ⟨located scenario variableName message, scenario, variableName, cause⟩

end SpecificationError

/-- What stops an operation. -/
inductive Failure where
  /-- A failure of some kind, made with some arguments. -/
  | raised (kind : ErrorKind) (arguments : List Value)
  /-- A fault of an operation. -/
  | fault (cause : Fault)
  /-- A malformed scenario. -/
  | specification (error : SpecificationError)
  /-- The mismatch that the assertion of a case reported; `title` is the formatted path. -/
  | assertion (path : List Value) (title reason : String)
  /-- The failure of the computation of a case. -/
  | execution (path : List Value) (title : String) (cause : Failure) (chained : Bool)
  /-- A failure of a library below this one, known by kind and text only. -/
  | other (kind : ErrorKind) (message : String)
  /-- A failure that has no text, because forming one fails with another failure. -/
  | mute (kind : ErrorKind) (cause : Failure)
  deriving Repr

namespace Failure

/-- The kind of a failure. -/
def kind : Failure → ErrorKind
  | raised kind _ => kind
  | fault cause => cause.kind
  | specification _ => .specification
  | assertion _ _ _ => .assertionFailure
  | execution _ _ _ _ => .execution
  | other kind _ => kind
  | mute kind _ => kind

/-- Whether a failure belongs to a family. -/
def isA (f : Failure) (family : Family) : Bool :=
  f.kind.isA family

/-- The text of arguments: nothing, the label of the only one, or the literal of all. -/
def argumentsText : List Value → Except Fault String
  | [] => .ok ""
  | [v] => v.shown
  | vs => (Value.tuple vs).written

/-- The files that an error of the operating system names, after its number and text. -/
def filesText : List Value → Except Fault String
  | [] | .null :: _ => .ok ""
  | [file, _, .null] => file.written.map (": " ++ ·)
  | [file, _, target] => do
    let first ← file.written
    let second ← target.written
    return ": " ++ first ++ " -> " ++ second
  | file :: _ => file.written.map (": " ++ ·)

/--
The count that an error of a transfer cut short gives in the place of the file, which its text
does not show.
-/
def count? (kind : ErrorKind) : List Value → Option Scalar
  | .scalar s :: _ => if kind = .blocking ∧ s.isNumber then some s else none
  | _ => none

/-- The text of an error of the operating system, made with a number, a text and files. -/
def systemText (kind : ErrorKind) : List Value → Except Fault String
  | number :: text :: rest =>
    if rest.length ≤ 3 then do
      let code ← number.shown
      let words ← text.shown
      let files ← if (count? kind rest).isSome then .ok "" else filesText rest
      return "[Errno " ++ code ++ "] " ++ words ++ files
    else argumentsText (number :: text :: rest)
  | vs => argumentsText vs

/-- The text of a failure of a kind, made with some arguments. -/
def textOf (kind : ErrorKind) (arguments : List Value) : Except Fault String :=
  if kind.isA .silent then .ok ""
  else if kind.isA .system then systemText kind arguments
  else
    match placeText? kind arguments, arguments with
    | some text, _ => text
    | none, [v] => if kind.isA .lookup then v.written else v.shown
    | none, vs => argumentsText vs

/-- The text of a failure, or the failure that forming it ends with. -/
def message : Failure → Except Failure String
  | raised kind arguments => (textOf kind arguments).mapError fault
  | fault cause => cause.message.mapError fault
  | specification error => .ok error.message
  | assertion _ title reason => .ok (title ++ ": " ++ reason)
  | execution _ title cause _ =>
    cause.message.map fun text => title ++ ": computation raised " ++ cause.kind.name ++ ": " ++ text
  | other _ text => .ok text
  | mute _ cause => .error cause

/-- The status of a request to leave the program: nothing, the only argument, or all of them. -/
def exitStatus? (f : Failure) : Option Value :=
  if f.isA .exit then
    match f with
    | raised _ [] => some .null
    | raised _ [v] => some v
    | raised _ vs => some (.tuple vs)
    | _ => some .null
  else none

/-- The kind and, unless it is empty, the text. -/
def describe (f : Failure) : Except Failure String :=
  f.message.map fun text => if text = "" then f.kind.name else f.kind.name ++ ": " ++ text

/-- The kind of an error made with some arguments: one of the system goes by its number. -/
def kindFor (kind : ErrorKind) (arguments : List Value) : ErrorKind :=
  match arguments with
  | .scalar number :: _ =>
    if kind = .systemError ∧ 2 ≤ arguments.length ∧ arguments.length ≤ 5 then
      (number.whole?.map ErrorKind.ofErrorNumber).getD kind
    else kind
  | _ => kind

/-- Refuses a count in the place of the file unless it is a whole number in range. -/
def checkCount (kind : ErrorKind) (arguments : List Value) : Except Fault Unit :=
  match count? kind (arguments.drop 2) with
  | some s =>
    if arguments.length ≤ 5 then
      match s.whole? with
      | some n => if Value.fitsIndex n then .ok () else .error .countTooWide
      | none => .error (.notCount s.kindName)
    else .ok ()
  | none => .ok ()

/--
The failure of a kind by name. A malformed scenario takes exactly one argument, its message; an
error of the operating system with a number is of the kind that the number stands for.
-/
def make (name : String) (arguments : List Value) : Except Fault Failure :=
  if name = "SpecificationError" then
    match arguments with
    | [message] => do
      let text ← message.shown
      return .specification (.make text .null .null none)
    | _ => .error (.messageArguments arguments.length)
  else do
    let kind := kindFor (.ofName name) arguments
    checkCount kind arguments
    checkPlace kind arguments
    return .raised kind arguments

/-- The failure that raising a kind by name ends with, which may be that it cannot be made. -/
def ofName (name : String) (arguments : List Value) : Failure :=
  match make name arguments with
  | .ok f => f
  | .error e => .fault e

end Failure

end CaseGrid
