import CaseGrid.Failure.Kind
import CaseGrid.Value.Written

/-
  Faults: an operation was given something it cannot work with. Each cause has its kind and
  its wording here.
-/

namespace CaseGrid

open CaseGrid.Text (quoted)

/-- What an operation was given that it cannot work with. -/
inductive Fault where
  /-- A value that has no items. -/
  | notIterable (kind : String)
  /-- A candidate value described by something that has no items. -/
  | notSpread (kind : String)
  /-- A candidate value described by no item. -/
  | missingBoth
  /-- A candidate value described by its name only. -/
  | missingValue
  /-- A candidate value described by more than name and value. -/
  | tooManyParts (given : Nat)
  /-- A malformed scenario made with a number of arguments that it does not take. -/
  | messageArguments (given : Nat)
  /-- A failure made with a number of arguments that its kind does not take. -/
  | argumentCount (wanted : String) (given : Nat)
  /-- An argument in a place for texts that is no text. -/
  | argumentNotText (place kind : String)
  /-- An argument in a place for bytes that is something else. -/
  | notBytes (kind : String)
  /-- An offset beyond what an index can be. -/
  | offsetTooWide
  /-- The line where something ends without the column. -/
  | endMissing
  /-- A group made with a number of arguments that is not two. -/
  | groupArguments (given : Nat)
  /-- A group whose members are not given in order. -/
  | membersNotListed
  /-- A group without members. -/
  | noMembers
  /-- A group whose first member is no failure. -/
  | notMember
  /-- An argument name that is no text. -/
  | nameNotText
  /-- A value that cannot be a key. -/
  | unhashable (kind : String)
  /-- A step that is no function. -/
  | notCallable (kind : String)
  /-- A value without the part that is asked for. -/
  | noPart (kind part : String)
  /-- A value without a length. -/
  | noLength (kind : String)
  /-- A path that is no sequence. -/
  | notJoinable
  /-- A path segment that is no text. -/
  | segmentNotText (position : Nat) (kind : String)
  /-- A separator of no characters. -/
  | emptySeparator
  /-- The title of a path without segments. -/
  | emptyPath
  /-- A change to a field of a case. -/
  | frozenField (name : String)
  /-- A change to the bindings of a case. -/
  | frozenBindings
  /-- A change to the bindings at a number that cannot be an index. -/
  | indexTooLarge
  /-- An argument given twice in one call. -/
  | repeatedArgument (step name : String)
  /-- A name without a binding. -/
  | unboundName (name : String)
  /-- Arithmetic on something else than whole numbers. -/
  | notInteger
  /-- A key that is not there. -/
  | unknownKey (key : Value)
  /-- A table row with fewer cells than there are headers. -/
  | missingCell
  /-- A count of characters that is no whole number. -/
  | notCount (kind : String)
  /-- A count of characters beyond what a length can be. -/
  | countTooWide
  /-- An outcome name that is none. -/
  | unknownOutcome (text : String)
  /-- A number of cases beyond what a length can be. -/
  | countTooLarge
  /-- A character of code zero in a text that the system is given. -/
  | nullCharacter
  /-- A time beyond what a clock can show. -/
  | timeTooLong
  /-- A whole number with too many digits to be written. -/
  | numberTooLong
  /-- A character to be shown that stands before the beginning of its text. -/
  | characterBeforeText
  /-- A step program with an operation that does not exist. -/
  | unknownOperation (name : String)
  deriving Repr

namespace Fault

/-- The kind of a fault. -/
def kind : Fault → ErrorKind
  | noPart _ _ => .attributeError
  | emptySeparator | countTooWide | numberTooLong | unknownOutcome _ | noMembers | notMember |
    nullCharacter => .valueError
  | emptyPath | missingCell | indexTooLarge => .indexError
  | frozenField _ => .frozenField
  | unboundName _ => .nameError
  | unknownKey _ => .keyError
  | countTooLarge | offsetTooWide | timeTooLong => .overflowError
  | unknownOperation _ => .runtimeError
  | characterBeforeText => .internal
  | _ => .typeError

/-- The fault in words. -/
def words : Fault → String
  | notIterable kind => "'" ++ kind ++ "' object is not iterable"
  | notSpread kind =>
    "combitest.model.Value() argument after * must be an iterable, not " ++ kind
  | missingBoth => "Value.__init__() missing 2 required positional arguments: 'name' and 'value'"
  | missingValue => "Value.__init__() missing 1 required positional argument: 'value'"
  | tooManyParts given =>
    "Value.__init__() takes 3 positional arguments but " ++ toString (given + 1) ++ " were given"
  | messageArguments given =>
    if given = 0 then
      "SpecificationError.__init__() missing 1 required positional argument: 'message'"
    else
      "SpecificationError.__init__() takes 2 positional arguments but " ++ toString (given + 1) ++
        " were given"
  | argumentCount wanted given =>
    "function takes " ++ wanted ++ " arguments (" ++ toString given ++ " given)"
  | argumentNotText place kind => place ++ " must be str, not " ++ kind
  | notBytes kind => "a bytes-like object is required, not '" ++ kind ++ "'"
  | offsetTooWide => "Python int too large to convert to C ssize_t"
  | endMissing => "end_offset must be provided when end_lineno is provided"
  | groupArguments given =>
    "BaseExceptionGroup.__new__() takes exactly 2 arguments (" ++ toString given ++ " given)"
  | membersNotListed => "second argument (exceptions) must be a sequence"
  | noMembers => "second argument (exceptions) must be a non-empty sequence"
  | notMember => "Item 0 of second argument (exceptions) is not an exception"
  | nameNotText => "keywords must be strings"
  | unhashable kind => "unhashable type: '" ++ kind ++ "'"
  | notCallable kind => "'" ++ kind ++ "' object is not callable"
  | noPart kind part =>
    "'" ++ kind ++ "' object has no attribute '" ++ part ++ "'"
  | noLength kind => "object of type '" ++ kind ++ "' has no len()"
  | notJoinable => "can only join an iterable"
  | segmentNotText position kind =>
    "sequence item " ++ toString position ++ ": expected str instance, " ++ kind ++ " found"
  | emptySeparator => "empty separator"
  | emptyPath => "tuple index out of range"
  | frozenField name => "cannot assign to field '" ++ name ++ "'"
  | frozenBindings => "'mappingproxy' object does not support item assignment"
  | repeatedArgument step name =>
    step ++ " got multiple values for keyword argument '" ++ name ++ "'"
  | unboundName name => "name '" ++ name ++ "' is not defined"
  | notInteger => "operands must be integers"
  | unknownKey key => key.literal
  | missingCell => "list index out of range"
  | unknownOutcome text =>
    "Invalid outcome '" ++ text ++ "'. Valid values are: passed, failed, errored"
  | notCount kind => "'" ++ kind ++ "' object cannot be interpreted as an integer"
  | countTooLarge | countTooWide | indexTooLarge => "cannot fit 'int' into an index-sized integer"
  | nullCharacter => "embedded null byte"
  | timeTooLong => "integer division result too large for a float"
  | numberTooLong => Number.writingRefused
  | characterBeforeText => "<class 'str'> returned a result with an exception set"
  | unknownOperation name => "bad step op " ++ name

/-- Whether a fault shows a whole number with too many digits to be written. -/
def isTooLong : Fault → Bool
  | unknownKey key => key.isTooLong
  | _ => false

/-- The text of a fault, unless a number in it is too long. -/
def message (cause : Fault) : Except Fault String :=
  if cause.isTooLong then .error .numberTooLong else .ok cause.words

end Fault

end CaseGrid
