import CaseGrid.Command.Grammar

/-
  Requests: what a command line asks for. There are two commands, one that shows the cases of a
  target and one that runs them; options before the command set how much is logged.
-/

namespace CaseGrid.Command

/-- A command with its options. -/
inductive Action where
  | inspect (target : String) (asTree : Bool)
  | run (target : String) (select : List String)
  deriving DecidableEq, Repr

/-- A command, and how much is logged. -/
structure Request where
  verbose : Bool
  quiet : Bool
  action : Action
  deriving DecidableEq, Repr

namespace Request

/-- The option that asks for the explanation. -/
def helpRule : OptionRule := ⟨.help, ["-h", "--help"], false⟩

/-- The options before a command. -/
def grammar : Grammar where
  program := "combitest"
  usage := "usage: combitest [-h] [--verbose] [--quiet] \x7binspect,run\x7d ..."
  explanation := "\n".intercalate [
    "usage: combitest [-h] [--verbose] [--quiet] \x7binspect,run\x7d ...",
    "",
    "Inspect and run combinatorial test scenarios.",
    "",
    "options:",
    "  -h, --help     show this help message and exit",
    "  --verbose, -v  Enable debug logging",
    "  --quiet        Only log warnings and errors",
    "",
    "Available commands:",
    "  \x7binspect,run\x7d  Available commands",
    "    inspect      Validate scenarios and list generated case paths",
    "    run          Run scenarios from a Python module"]
  options := [helpRule, ⟨.verbose, ["--verbose", "-v"], false⟩, ⟨.quiet, ["--quiet"], false⟩]
  operand := "\x7binspect,run\x7d"
  takesRest := true

/-- The options of the command that shows cases. -/
def inspectGrammar : Grammar where
  program := "combitest inspect"
  usage := "usage: combitest inspect [-h] [--tree] target"
  explanation := "\n".intercalate [
    "usage: combitest inspect [-h] [--tree] target",
    "",
    "positional arguments:",
    "  target      Scenario YAML file, Python file, or dotted module name",
    "",
    "options:",
    "  -h, --help  show this help message and exit",
    "  --tree, -t  Show paths as an indented hierarchy"]
  options := [helpRule, ⟨.tree, ["--tree", "-t"], false⟩]
  operand := "target"
  takesRest := false

/-- The options of the command that runs cases. -/
def runGrammar : Grammar where
  program := "combitest run"
  usage := "usage: combitest run [-h] [--select PATH [PATH ...]] target"
  explanation := "\n".intercalate [
    "usage: combitest run [-h] [--select PATH [PATH ...]] target",
    "",
    "positional arguments:",
    "  target                Python file or dotted module name",
    "",
    "options:",
    "  -h, --help            show this help message and exit",
    "  --select PATH [PATH ...], -s PATH [PATH ...]",
    "                        Only run cases under these paths, e.g. doubles::a::A1"]
  options := [helpRule, ⟨.select, ["--select", "-s"], true⟩]
  operand := "target"
  takesRest := false

/-- Whether an option was given. -/
def has (found : Found) (switch : Switch) : Bool :=
  found.given.any fun o => o.1 == switch

/-- The values of the last occurrence of an option. -/
def lastValues (found : Found) (switch : Switch) : List String :=
  found.given.foldl (fun values o => if o.1 = switch then o.2 else values) []

/-- The command of a name with its arguments, and what is left over of them. -/
def readAction (name : String) (arguments : List String) :
    Except Stop (Action × List String) := do
  match name with
  | "inspect" =>
    let found ← inspectGrammar.read arguments
    match found.operand with
    | some [target] => return (.inspect target (has found .tree), found.extras)
    | _ => throw inspectGrammar.lacking
  | "run" =>
    let found ← runGrammar.read arguments
    match found.operand with
    | some [target] => return (.run target (lastValues found .select), found.extras)
    | _ => throw runGrammar.lacking
  | _ =>
    throw (.misused grammar ("argument " ++ grammar.operand ++ ": invalid choice: " ++
      Text.quoted name ++ " (choose from 'inspect', 'run')"))

/-- The request of a command line. -/
def read (arguments : List String) : Except Stop Request := do
  if arguments.isEmpty then throw (.explained grammar)
  let found ← grammar.read arguments
  match found.operand with
  | some (name :: rest) =>
    let (action, extras) ← readAction name rest
    if found.extras.isEmpty && extras.isEmpty then
      return ⟨has found .verbose, has found .quiet, action⟩
    else
      throw (.misused grammar
        ("unrecognized arguments: " ++ " ".intercalate (found.extras ++ extras)))
  | _ => throw grammar.lacking

end Request

end CaseGrid.Command
