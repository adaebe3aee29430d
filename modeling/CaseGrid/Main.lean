import CaseGrid.Command.Basic

/-
  The command line program. It reads the file that is asked for, follows the command line, and
  prints what was printed. There are no modules beside it, so it shows scenario documents.
-/

open CaseGrid CaseGrid.Command

/-- What there is at a path on disk. -/
def lookOnDisk (path : String) : IO Place := do
  try
    return .file (.text (← IO.FS.readFile path))
  catch e =>
    match e with
    | .inappropriateType .. => return .directory
    | _ => return .missing

/-- The path of the file that a command line asks for. -/
def documentPath? (arguments : List String) : Option String :=
  match Request.read arguments with
  | .ok ⟨_, _, .inspect target _⟩ =>
    if documentEndings.contains (Target.ending target) then some target else none
  | _ => none

/-- The surroundings of a command line on disk. -/
def surroundingsOnDisk (arguments : List String) : IO Surroundings := do
  match documentPath? arguments with
  | none => return ⟨fun _ => .missing, []⟩
  | some path =>
    let place ← lookOnDisk path
    return ⟨fun p => if p = path then place else .missing, []⟩

/-- Follows the command line and prints what comes of it. -/
def main (arguments : List String) : IO UInt32 := do
  let surroundings ← surroundingsOnDisk arguments
  let (outcome, trace) := Command.perform {} surroundings arguments {}
  for line in trace.printed do
    IO.println line
  for line in trace.complaints do
    IO.eprintln line
  match outcome with
  | .ok () => return 0
  | .error f =>
    match f.exitStatus? with
    | some (.int n) => return UInt32.ofNat n.toNat
    | _ =>
      match f.describe with
      | .ok text => IO.eprintln text
      | .error _ => IO.eprintln (f.kind.name ++ ": <exception str() failed>")
      return 1
