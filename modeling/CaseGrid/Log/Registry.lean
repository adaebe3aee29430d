import CaseGrid.Log.Template
import CaseGrid.Text.Split

/-
  The loggers of a program. Loggers are told apart by name, and one whose name goes on after a
  point belongs to the nearest one above it that exists. The program's own logger has handlers; one
  is installed when it is first needed. Loggers are given out under the program's name only. A
  record is looked at by the handlers, if the program's logger is above the one it is written to,
  and by whoever watches all loggers; both only if the logger it is written to, or the nearest one
  above it with a level, lets it pass. A record that cannot be made into a line fails before it
  reaches the watcher.
-/

namespace CaseGrid.Log

/-- What becomes of the records that a handler is given. -/
inductive Sink where
  | console
  /-- They are kept as they are. -/
  | records
  /-- They are kept as lines. -/
  | lines
  deriving DecidableEq, Repr

/-- What a handler keeps of a record. -/
inductive Kept where
  | record (r : Record)
  | line (text : String)
  deriving DecidableEq, Repr

/-- A handler: the least level, the template of its lines, and what it does with records. -/
structure Handler where
  level : Severity
  template : String
  sink : Sink
  deriving DecidableEq, Repr

/-- A logger, its level, and the logger that it belongs to unless that is the one above all. -/
structure Logger where
  name : String
  level : Severity
  above : Option String
  deriving DecidableEq, Repr

/-- The state of all loggers. -/
structure Registry where
  /-- The loggers that exist, but for the one above all. -/
  loggers : List Logger
  /-- The level of the logger above all. -/
  rootLevel : Severity
  /-- The handlers of the program's own logger. -/
  handlers : List Handler
  configured : Bool
  /-- The level that the surroundings of the program name. -/
  environment : Option String
  /-- What the handlers kept. -/
  handled : List Kept
  /-- The records that were seen by the watcher of all loggers. -/
  watched : List Record
  deriving Repr

/-- The name of the program's own logger. -/
def program : String := "combitest"

/-- The name of the variable that holds the level named by the surroundings. -/
def levelVariable : String := "COMBITEST_LOG_LEVEL"

/-- The name of the logger above all. -/
def rootName : String := "root"

namespace Logger

/-- The part of a name before the last point, of a name read backwards. -/
def beforePoint : List Char → List Char
  | [] => []
  | '.' :: rest => rest
  | _ :: rest => beforePoint rest

/-- The names above a name, nearest first, of a name read backwards. A point that is followed by
another one parts nothing. -/
def namesAbove : Nat → List Char → List String
  | 0, _ => []
  | fuel + 1, cs =>
    match beforePoint cs with
    | [] => []
    | above => String.ofList above.reverse :: namesAbove fuel (above.drop 1)

/-- The names that a logger may belong to, nearest first. -/
def ancestors (name : String) : List String :=
  namesAbove name.length name.toList.reverse

/--
A logger after a new one was made: it belongs to the new one if that is above it, unless the name
of the logger that it belongs to begins with the name of the new one, as the name of a nearer
logger does.
-/
def beside (made : String) (l : Logger) : Logger :=
  if (ancestors l.name).contains made && !Text.begins made (l.above.getD rootName) then
    { l with above := some made }
  else l

end Logger

/-- What a handler keeps of a record; a handler that keeps lines fails where there is none. -/
def Handler.keep (h : Handler) (r : Record) : Except Failure (List Kept) :=
  match h.sink with
  | .console => .ok []
  | .records => .ok [.record r]
  | .lines => (Template.line h.template r).map fun text => [.line text]

namespace Registry

/-- Nothing configured, and no logger but the program's own. -/
def start : Registry :=
  ⟨[⟨program, .unset, none⟩], .number warning, [], false, none, [], []⟩

/-- Whether a name is that of the logger above all. -/
def isRoot (name : String) : Bool :=
  name == "" || name == rootName

/-- The logger of a name, if it exists and is not the one above all. -/
def logger? (g : Registry) (name : String) : Option Logger :=
  g.loggers.find? fun l => l.name == name

/-- Whether a logger exists. -/
def isKnown (g : Registry) (name : String) : Bool :=
  isRoot name || (g.logger? name).isSome

/-- The level of a logger, or of one that is about to be made. -/
def level (g : Registry) (name : String) : Severity :=
  if isRoot name then g.rootLevel else ((g.logger? name).map Logger.level).getD .unset

/-- The registry in which a logger exists. -/
def withLogger (g : Registry) (name : String) : Registry :=
  if g.isKnown name then g
  else
    let above := (Logger.ancestors name).find? fun n => (g.logger? n).isSome
    { g with loggers := g.loggers.map (Logger.beside name) ++ [⟨name, .unset, above⟩] }

/-- The registry with the level of a logger set. -/
def setLevel (g : Registry) (name : String) (t : Severity) : Registry :=
  if isRoot name then { g with rootLevel := t }
  else
    let g' := g.withLogger name
    { g' with loggers := g'.loggers.map fun l => if l.name = name then { l with level := t } else l }

/-- A logger and those that it belongs to, nearest first. Names get shorter from one to the next,
so `fuel` need not exceed the length of the first. -/
def lineageFrom (g : Registry) : Nat → String → List String
  | 0, name => [name]
  | fuel + 1, name =>
    match (g.logger? name).bind Logger.above with
    | some n => name :: lineageFrom g fuel n
    | none => [name]

/-- A logger and those that it belongs to, nearest first, the one above all left out. -/
def lineage (g : Registry) (name : String) : List String :=
  if isRoot name then [] else g.lineageFrom name.length name

/-- The level that decides for a logger: its own, or that of the nearest one that has one. -/
def effective (g : Registry) (name : String) : Severity :=
  match (g.lineage name).find? fun n => !(g.level n).isUnset with
  | some n => g.level n
  | none => if g.rootLevel.isUnset then .unset else g.rootLevel

/-- Whether a logger lets records of a level pass. -/
def passes (g : Registry) (name : String) (level : Severity) : Bool :=
  0 < level.toInt && (g.effective name).toInt ≤ level.toInt

/-- The name under which a logger writes. -/
def writtenName (name : String) : String :=
  if isRoot name then rootName else name

/-- An operation on the registry that ends with a result or a failure. -/
abbrev Operation (α : Type) := Registry → Except Failure α × Registry

/-- The handlers that look at the records of a level that a logger lets pass. -/
def receivers (g : Registry) (name : String) (level : Severity) : List Handler :=
  if (g.lineage name).contains program then
    g.handlers.filter fun h => h.level.toInt ≤ level.toInt
  else []

/-- What the handlers keep of a record that a logger lets pass, one after the other. -/
def kept (g : Registry) (name : String) (r : Record) : Except Failure (List Kept) :=
  ((g.receivers name r.level).mapM fun (h : Handler) => h.keep r).map List.flatten

/-- Writes a record to its logger, which exists from then on. -/
def write (r : Record) : Operation Unit := fun g =>
  let g := g.withLogger r.logger
  if g.passes r.logger r.level then
    let shown := { r with logger := writtenName r.logger }
    match g.kept r.logger shown with
    | .ok ks => (.ok (), { g with handled := g.handled ++ ks, watched := g.watched ++ [shown] })
    | .error f => (.error f, g)
  else (.ok (), g)

/-- Writes a message to a logger at a level that is given as a value. -/
def writeAt (name : String) (level : Value) (message : String) : Operation Unit := fun g =>
  match Severity.ofRecordValue level with
  | .error f => (.error f, g.withLogger name)
  | .ok t => write { level := t, logger := name, message := message } g

/-- The record of a name in the surroundings that is none of a level. -/
def ignoredLevel (raw : String) : Record where
  level := .number warning
  logger := program
  message := "Ignoring " ++ levelVariable ++ "=" ++ Text.quoted raw ++ ": not a logging level"
  pattern := "Ignoring %s=%r: not a logging level"
  arguments := [levelVariable, raw]

/-- The level that the surroundings name, or the usual one; a name that is none is reported. -/
def environmentLevel : Operation Severity := fun g =>
  let raw := Text.trim (g.environment.getD "")
  if raw = "" then (.ok (.number info), g)
  else
    match Severity.ofName? raw with
    | some t => (.ok t, g)
    | none =>
      let (outcome, g) := write (ignoredLevel raw) g
      (outcome.map fun _ => .number info, g)

/-- The level that a value names; where there is none, that of the surroundings. -/
def namedLevel (level : Value) : Operation Severity := fun g =>
  match level with
  | .null => environmentLevel g
  | v => (Severity.ofValue v, g)

/-- Changes what the surroundings name; a text with a null character cannot be named. -/
def setEnvironment (named : Option String) : Operation Unit := fun g =>
  if (named.getD "").toList.contains '\x00' then
    (.error (.fault .nullCharacter), g)
  else (.ok (), { g with environment := named })

/-- Installs a handler and sets the level of the program's logger, unless that was done. The
handler stays installed even where the level is none. -/
def setup (level : Value) (template : String) (sink : Sink) : Operation Unit := fun g =>
  if g.configured then (.ok (), g)
  else
    match Template.check template with
    | .error f => (.error f, g)
    | .ok t =>
      let g := { g with handlers := [⟨.unset, t, sink⟩], configured := true }
      let (named, g) := namedLevel level g
      match named with
      | .error f => (.error f, g)
      | .ok t => (.ok (), g.setLevel program t)

/-- The registry after the usual installation. -/
def prepared (g : Registry) : Registry :=
  (setup .null "" .console g).2

/-- The name of a logger that is given out: the program's own one, or one that belongs to it. -/
def ownName (name : String) : String :=
  if name = program then name
  else if Text.begins (program ++ ".") name then name
  else program ++ "." ++ name

/-- Gives out a logger, which has no level of its own unless it is the program's. -/
def give (name : String) : Operation String := fun g =>
  let g := g.prepared
  let own := ownName name
  if own = program then (.ok own, g) else (.ok own, g.setLevel own .unset)

/-- Sets the level of the program's logger and of its handlers. -/
def setGlobal (level : Value) : Operation Unit := fun g =>
  let g := g.prepared
  match Severity.ofValue level with
  | .error f => (.error f, g)
  | .ok t =>
    let g := g.setLevel program t
    (.ok (), { g with handlers := g.handlers.map fun h => { h with level := t } })

/-- Sets the level of any logger, which exists from then on. -/
def setOwn (name : String) (level : Value) : Operation Unit := fun g =>
  match Severity.ofExactValue level with
  | .error f => (.error f, g.withLogger name)
  | .ok t => (.ok (), g.setLevel name t)

/-- Forgets the installation; other loggers keep their levels. -/
def reset (g : Registry) : Registry :=
  { g with handlers := [], configured := false }.setLevel program .unset

end Registry

end CaseGrid.Log
