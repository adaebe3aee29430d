/-
  Kinds of failures. A kind has a name, which reports show, and belongs to families, which
  decide how a failure is treated: whether a run may capture it, whether it counts as a failed
  assertion, and how its text is formed. Steps may fail with kinds of their own, which belong to
  any families: a mismatch may ask to stop as well.
-/

namespace CaseGrid

/-- The properties of kinds that some part of the program asks for. -/
inductive Family where
  /-- An ordinary error, as opposed to a request to stop. -/
  | ordinary
  /-- A request to stop at once, which no run captures. -/
  | interruption
  /-- A mismatch that an assertion reports. -/
  | assertion
  /-- An unsuitable value. -/
  | value
  /-- An error at run time. -/
  | runtime
  /-- A malformed scenario. -/
  | specification
  /-- A file that is not there. -/
  | missingFile
  /-- A module that cannot be loaded. -/
  | importing
  /-- A request to leave the program with a status. -/
  | exit
  /-- A key that is not there; its text is the literal of the key. -/
  | lookup
  /-- An error of the operating system, with a number and a text. -/
  | system
  /-- A text that an encoding cannot hold. -/
  | encoding
  /-- Bytes that are no text in an encoding. -/
  | decoding
  /-- A text that a table does not translate. -/
  | translating
  /-- A file that cannot be read as a program. -/
  | reading
  /-- Several failures as one. -/
  | group
  /-- A failure that has no text whatever it was given. -/
  | silent
  /-- A failure that counts as false where one is looked for. -/
  | falsy
  deriving DecidableEq, Repr

/-- A kind of failure. -/
structure ErrorKind where
  name : String
  families : List Family
  deriving DecidableEq, Repr

namespace ErrorKind

/-- Whether a kind belongs to a family. -/
def isA (kind : ErrorKind) (family : Family) : Bool :=
  kind.families.contains family

/-- The kind of a name in some families. -/
def of (name : String) (families : List Family) : ErrorKind :=
  ⟨name, families⟩

/-- An ordinary kind without further properties. -/
def ordinary (name : String) : ErrorKind :=
  of name [.ordinary]

def keyboardInterrupt : ErrorKind := of "KeyboardInterrupt" [.interruption]
def generatorExit : ErrorKind := of "GeneratorExit" [.interruption]
def systemExit : ErrorKind := of "SystemExit" [.exit]
def assertionError : ErrorKind := of "AssertionError" [.ordinary, .assertion]
def valueError : ErrorKind := of "ValueError" [.ordinary, .value]
def runtimeError : ErrorKind := of "RuntimeError" [.ordinary, .runtime]
def typeError : ErrorKind := ordinary "TypeError"
def attributeError : ErrorKind := ordinary "AttributeError"
def nameError : ErrorKind := ordinary "NameError"
def indexError : ErrorKind := ordinary "IndexError"
def overflowError : ErrorKind := ordinary "OverflowError"
def frozenField : ErrorKind := ordinary "FrozenInstanceError"
def internal : ErrorKind := ordinary "SystemError"
def keyError : ErrorKind := of "KeyError" [.ordinary, .lookup]
def systemError : ErrorKind := of "OSError" [.ordinary, .system]
def fileNotFound : ErrorKind := of "FileNotFoundError" [.ordinary, .system, .missingFile]
def moduleNotFound : ErrorKind := of "ModuleNotFoundError" [.ordinary, .importing]
def specification : ErrorKind := of "SpecificationError" [.ordinary, .value, .specification]
def assertionFailure : ErrorKind := of "AssertionFailure" [.ordinary, .assertion]
def execution : ErrorKind := of "ExecutionError" [.ordinary, .runtime]

def nestedTooDeep : ErrorKind := of "RecursionError" [.ordinary, .runtime]

/-- An error of the operating system of a kind of its own. -/
def system (name : String) : ErrorKind :=
  of name [.ordinary, .system]

/-- A transfer cut short because it would have to wait. -/
def blocking : ErrorKind := system "BlockingIOError"

/-- The kinds that steps and modules fail with by name, apart from the ordinary ones. -/
def special : List ErrorKind :=
  [keyboardInterrupt, generatorExit, systemExit, assertionError, valueError, runtimeError,
    keyError, systemError, fileNotFound, moduleNotFound,
    of "ImportError" [.ordinary, .importing],
    of "BaseException" [],
    of "NotImplementedError" [.ordinary, .runtime],
    nestedTooDeep,
    of "UnicodeError" [.ordinary, .value],
    of "UnicodeEncodeError" [.ordinary, .value, .encoding],
    of "UnicodeDecodeError" [.ordinary, .value, .decoding],
    of "UnicodeTranslateError" [.ordinary, .value, .translating],
    of "SyntaxError" [.ordinary, .reading],
    of "IndentationError" [.ordinary, .reading],
    of "TabError" [.ordinary, .reading],
    of "ExceptionGroup" [.ordinary, .group],
    of "BaseExceptionGroup" [.group],
    blocking, system "ChildProcessError", system "ConnectionError",
    system "BrokenPipeError", system "ConnectionAbortedError", system "ConnectionRefusedError",
    system "ConnectionResetError", system "FileExistsError", system "InterruptedError",
    system "IsADirectoryError", system "NotADirectoryError", system "PermissionError",
    system "ProcessLookupError", system "TimeoutError",
    of "CustomAssertion" [.ordinary, .assertion],
    of "CustomBase" [],
    of "SilentError" [.ordinary, .silent]]

/-- The kind of a name; one that is not special is an ordinary kind. -/
def ofName (name : String) : ErrorKind :=
  if name = "IOError" ∨ name = "EnvironmentError" then systemError
  else (special.find? fun kind => kind.name == name).getD (ordinary name)

/-- The kind that an error number of the operating system stands for. -/
def ofErrorNumber (n : Int) : ErrorKind :=
  if n = 2 then fileNotFound
  else if n = 1 ∨ n = 13 then system "PermissionError"
  else if n = 3 then system "ProcessLookupError"
  else if n = 4 then system "InterruptedError"
  else if n = 10 then system "ChildProcessError"
  else if n = 11 ∨ n = 114 ∨ n = 115 then blocking
  else if n = 17 then system "FileExistsError"
  else if n = 20 then system "NotADirectoryError"
  else if n = 21 then system "IsADirectoryError"
  else if n = 32 ∨ n = 108 then system "BrokenPipeError"
  else if n = 103 then system "ConnectionAbortedError"
  else if n = 104 then system "ConnectionResetError"
  else if n = 110 then system "TimeoutError"
  else if n = 111 then system "ConnectionRefusedError"
  else systemError

end ErrorKind

end CaseGrid
