import CaseGrid.Number.Limit
import CaseGrid.Number.Notation
import CaseGrid.Text.Quoted
import CaseGrid.Value.SetOrder

/-
  The two written forms of a value. Its literal shows the kind of everything in it, texts in
  quotes; its label is the literal except that a text is written as it is and a date or time
  in ISO form. An enclosing container met again is written as dots in its brackets, and the members
  of a set are written in the order of a table.
-/

namespace CaseGrid

open CaseGrid.Text (quoted quotedBytes)

/-- Minutes as days and seconds, the parts that are zero left out. -/
def offsetLiteral (minutes : Int) : String :=
  if minutes = 0 then "datetime.timezone.utc"
  else
    let days := minutes / 1440
    let seconds := minutes % 1440 * 60
    let parts :=
      (if days = 0 then [] else ["days=" ++ toString days]) ++
        (if seconds = 0 then [] else ["seconds=" ++ toString seconds])
    "datetime.timezone(datetime.timedelta(" ++ ", ".intercalate parts ++ "))"

/-- The literal of a day. -/
def Date.literal (d : Date) : String :=
  "datetime.date(" ++ ", ".intercalate [toString d.year, toString d.month, toString d.day] ++ ")"

/-- The literal of a time; seconds and microseconds only as far as they are not zero. -/
def Timestamp.literal (t : Timestamp) : String :=
  let fine :=
    if t.micro ≠ 0 then [toString t.second, toString t.micro]
    else if t.second ≠ 0 then [toString t.second]
    else []
  let parts := [toString t.date.year, toString t.date.month, toString t.date.day,
    toString t.hour, toString t.minute] ++ fine ++
    (match t.offset with
      | none => []
      | some minutes => ["tzinfo=" ++ offsetLiteral minutes])
  "datetime.datetime(" ++ ", ".intercalate parts ++ ")"

namespace Scalar

/-- The literal of a scalar. -/
def literal : Scalar → String
  | .null => "None"
  | .bool true => "True"
  | .bool false => "False"
  | .int n => toString n
  | .float x => x.text
  | .text s => quoted s
  | .broken b => b.points.literal
  | .bytes bs => quotedBytes bs
  | .date d => d.literal
  | .timestamp t => t.literal

/-- Whether a scalar is a whole number with too many digits to be written. -/
def isTooLong : Scalar → Bool
  | .int n => Number.isTooLong n
  | _ => false

/-- The label of a scalar. -/
def label : Scalar → String
  | .text s => s
  | .broken b => b.points.shown
  | .date d => d.iso
  | .timestamp t => t.iso ' '
  | s => s.literal

end Scalar

/-- The brackets of a kind of container around its written parts. -/
def Container.enclose (c : Container) (parts : List String) : String :=
  let body := ", ".intercalate parts
  match c with
  | .list => "[" ++ body ++ "]"
  | .tuple => if parts.length = 1 then "(" ++ body ++ ",)" else "(" ++ body ++ ")"
  | .map => "\x7b" ++ body ++ "\x7d"
  | .set => if parts.isEmpty then "set()" else "\x7b" ++ body ++ "\x7d"

/-- The sign for an enclosing container met again. -/
def Container.again : Container → String
  | .list => "[...]"
  | .tuple => "(...)"
  | .map => "\x7b...\x7d"
  | .set => "set(...)"

namespace Value

mutual

/-- Whether some whole number in a value has too many digits to be written. -/
def isTooLong : Value → Bool
  | .scalar s => s.isTooLong
  | .list xs => someTooLong xs
  | .tuple xs => someTooLong xs
  | .map es => someEntryTooLong es
  | .set xs => someTooLong xs
  | .again _ => false

/-- Whether some item holds a number that is too long. -/
def someTooLong : List Value → Bool
  | [] => false
  | x :: xs => isTooLong x || someTooLong xs

/-- Whether some key or what it is assigned holds a number that is too long. -/
def someEntryTooLong : List (Value × Value) → Bool
  | [] => false
  | (k, v) :: es => isTooLong k || isTooLong v || someEntryTooLong es

end

mutual

/-- The literal of a value. -/
def literal : Value → String
  | .scalar s => s.literal
  | .list xs => Container.list.enclose (literals xs)
  | .tuple xs => Container.tuple.enclose (literals xs)
  | .map es => Container.map.enclose (entryLiterals es)
  | .set xs =>
    Container.set.enclose ((SlotTable.arrange (fun m => m.1.digest) (members xs)).map (·.2))
  | .again c => c.again

/-- The literals of the items. -/
def literals : List Value → List String
  | [] => []
  | x :: xs => literal x :: literals xs

/-- The literals of the entries, key and value parted by a colon. -/
def entryLiterals : List (Value × Value) → List String
  | [] => []
  | (k, v) :: es => (literal k ++ ": " ++ literal v) :: entryLiterals es

/-- The members of a set, each with its literal. -/
def members : List Value → List (Value × String)
  | [] => []
  | x :: xs => (x, literal x) :: members xs

end

/-- The label of a value. -/
def label : Value → String
  | .scalar s => s.label
  | v => v.literal

/-- The code points of the label of a value. -/
def labelPoints : Value → Text.Points
  | .scalar (.broken b) => b.points
  | v => .ofString v.label

example : literal (.list [.text "a", .tuple [.int 1], .null]) = "['a', (1,), None]" := by
  decide +kernel
example : literal (.map [(.bool true, .again .map)]) = "\x7bTrue: \x7b...\x7d\x7d" := by
  decide +kernel
example : literal (.set [.int 10, .int 2, .int 33]) = "\x7b33, 10, 2\x7d" := by decide +kernel
example : label (.text "a'b") = "a'b" := by decide +kernel

end Value

end CaseGrid
