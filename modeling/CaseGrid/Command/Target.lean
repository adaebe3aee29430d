import CaseGrid.Module
import CaseGrid.Text.Split

/-
  Targets of commands: files below a directory, and modules by their dotted names. A path is a
  list of segments; empty ones and single points count for nothing, and two points lead back to
  the directory above. A module cannot be loaded without the ones that its name begins with.
-/

namespace CaseGrid.Command

/-- What a file holds. -/
inductive Content where
  | text (s : String)
  | definitions (ds : Definitions)

/-- What there is at a path. -/
inductive Place where
  | missing
  /-- Nothing, and a file where a directory would have to be. -/
  | blocked
  /-- Nothing, and a name that no file can have. -/
  | unnameable
  | directory
  | file (content : Content)

/-- What commands find around them. -/
structure Surroundings where
  look : String → Place
  modules : List (String × Definitions)

namespace Target

/-- The segments of a path. -/
def segments (path : String) : List String :=
  (Text.split "/" path).filter fun p => p != "" && p != "."

/-- The path in its shortest form. -/
def shortened (path : String) : String :=
  let body := "/".intercalate (segments path)
  if Text.begins "/" path then "/" ++ body else if body = "" then "." else body

/-- The last segment of a path. -/
def fileName (path : String) : String :=
  ((segments path).getLast?).getD ""

/-- The position of the last point of a name, unless it is at the beginning or at the end. -/
def pointAt? (name : List Char) : Option Nat :=
  let after := (name.reverse.takeWhile (· != '.')).length
  let i := name.length - after - 1
  if after = name.length ∨ after = 0 ∨ i = 0 then none else some i

/-- The ending of a file name, with its point. -/
def ending (path : String) : String :=
  let name := (fileName path).toList
  match pointAt? name with
  | some i => String.ofList (name.drop i)
  | none => ""

/-- A file name without its ending. -/
def stem (path : String) : String :=
  let name := (fileName path).toList
  match pointAt? name with
  | some i => String.ofList (name.take i)
  | none => String.ofList name

example : ending "dir/a.b.yaml" = ".yaml" := by decide +kernel
example : ending ".yaml" = "" := by decide +kernel
example : stem "dir//a.b.py" = "a.b" := by decide +kernel

end Target

namespace Surroundings

/-- What some files have at a path of segments. -/
def at? (files : List (List String × Content)) (place : List String) : Place :=
  match files.reverse.find? fun f => f.1 == place with
  | some f => .file f.2
  | none => if files.any fun f => place.isPrefixOf f.1 then .directory else .missing

/-- The most bytes that the name of a file has. -/
def greatestName : Nat := 255

/-- The most bytes that a path has. -/
def greatestPath : Nat := 4095

/-- Where segments lead from a directory. -/
def follow (files : List (List String × Content)) (here : List String) : List String → Place
  | [] => if here.isEmpty then .directory else at? files here
  | segment :: rest =>
    if segment = ".." then
      if here.isEmpty then .missing else follow files here.dropLast rest
    else if greatestName < segment.utf8ByteSize then .unnameable
    else
      let next := here ++ [segment]
      match at? files next with
      | .directory => follow files next rest
      | .file c => if rest.isEmpty then .file c else .blocked
      | other => other

/-- Some files by their paths, and some modules. -/
def ofFiles (files : List (String × Content)) (modules : List (String × Definitions)) :
    Surroundings where
  look path :=
    if greatestPath < (Target.shortened path).utf8ByteSize then .unnameable
    else if Text.begins "/" path then .missing
    else follow (files.map fun f => (Target.segments f.1, f.2)) [] (Target.segments path)
  modules := modules

/-- The text of a file, every line ended in the same way. -/
def unixLines : List Char → List Char
  | [] => []
  | '\r' :: '\n' :: rest => '\n' :: unixLines rest
  | '\r' :: rest => '\n' :: unixLines rest
  | c :: rest => c :: unixLines rest

/-- The failure of the operating system at a path. -/
def systemFailure (number : Int) (text path : String) : Failure :=
  .raised (ErrorKind.ofErrorNumber number)
    [.int number, .text text, .text (Target.shortened path)]

/-- The failure at a path with a name that no file can have. -/
def nameFailure (path : String) : Failure :=
  systemFailure 36 "File name too long" path

/-- The text of a file. The character of code zero is part of no path. -/
def readText (s : Surroundings) (path : String) : Except Failure String :=
  if path.toList.contains '\x00' then .error (.fault .nullCharacter)
  else match s.look path with
  | .missing => .error (systemFailure 2 "No such file or directory" path)
  | .blocked => .error (systemFailure 20 "Not a directory" path)
  | .unnameable => .error (nameFailure path)
  | .directory => .error (systemFailure 21 "Is a directory" path)
  | .file (.text text) => .ok (String.ofList (unixLines text.toList))
  | .file (.definitions _) => .ok ""

/-- The definitions of a file. -/
def loadFile (s : Surroundings) (path : String) : Except Failure Definitions :=
  let missing : Except Failure Definitions := .error (.raised .fileNotFound [.text path])
  if path.toList.contains '\x00' then missing
  else match s.look path with
    | .file (.definitions ds) => ds.load
    | .file (.text _) => .ok []
    | .unnameable => .error (nameFailure path)
    | _ => missing

/-- The beginnings of a dotted name, shortest first, the name itself last. -/
def dottedPrefixes (name : String) : List String :=
  let parts := Text.split "." name
  (List.range parts.length).map fun i => ".".intercalate (parts.take (i + 1))

/-- Whether a name is that of a module, or begins one. -/
def hasModule (s : Surroundings) (name : String) : Bool :=
  s.modules.any fun m => m.1 == name || Text.begins (name ++ ".") m.1

/-- Loads modules one after the other; the definitions of the last one. One that only begins the
names of others defines nothing. -/
def loadEach (s : Surroundings) (loaded : Definitions) : List String → Except Failure Definitions
  | [] => .ok loaded
  | name :: rest =>
    if s.hasModule name then do
      let ds ← match s.modules.reverse.find? fun m => m.1 == name with
        | some m => m.2.load
        | none => .ok []
      loadEach s ds rest
    else .error (.raised .moduleNotFound [.text ("No module named " ++ Text.quoted name)])

/-- The definitions of a module, which is loaded after those that its name begins with. -/
def loadModule (s : Surroundings) (name : String) : Except Failure Definitions :=
  if Text.begins "." name then
    .error (.other .typeError
      ("the 'package' argument is required to perform a relative import for " ++
        Text.quoted name))
  else if name = "" then .error (.other .valueError "Empty module name")
  else s.loadEach [] (dottedPrefixes name)

/-- The definitions of a target and the name of its module: a file with the ending for modules,
or a module by name. -/
def load (s : Surroundings) (target : String) : Except Failure (String × Definitions) :=
  if Target.ending target = ".py" then
    (s.loadFile target).map fun ds => (Target.stem target, ds)
  else (s.loadModule target).map fun ds => (target, ds)

end Surroundings

end CaseGrid.Command
