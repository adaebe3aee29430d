import CaseGrid.Calendar
import CaseGrid.Number.Binary64
import CaseGrid.Text.Points

/-
  The values that variables take and that steps pass on: scalars, and lists, tuples, mappings
  and sets of values. A mapping is a list of entries in order of insertion, its keys pairwise
  different.
-/

namespace CaseGrid

open CaseGrid.Number (Binary64)

/-- A value without parts. -/
inductive Scalar where
  | null
  | bool (b : Bool)
  | int (n : Int)
  | float (x : Binary64)
  | text (s : String)
  /-- Code points that are no text. -/
  | broken (b : Text.Broken)
  | bytes (bs : List UInt8)
  | date (d : Date)
  | timestamp (t : Timestamp)
  deriving DecidableEq, Repr, Inhabited

/-- The kinds of values with parts. -/
inductive Container where
  | list
  | tuple
  | map
  | set
  deriving DecidableEq, Repr, Inhabited

/--
A value. Data that contains itself is unfolded once: where an enclosing container is met
again, `again` stands for it.
-/
inductive Value where
  | scalar (s : Scalar)
  | list (items : List Value)
  | tuple (items : List Value)
  | map (entries : List (Value × Value))
  | set (items : List Value)
  | again (container : Container)
  deriving Repr, Inhabited

namespace Value

@[match_pattern] abbrev null : Value := .scalar .null
@[match_pattern] abbrev bool (b : Bool) : Value := .scalar (.bool b)
@[match_pattern] abbrev int (n : Int) : Value := .scalar (.int n)
@[match_pattern] abbrev float (x : Binary64) : Value := .scalar (.float x)
@[match_pattern] abbrev text (s : String) : Value := .scalar (.text s)
@[match_pattern] abbrev bytes (bs : List UInt8) : Value := .scalar (.bytes bs)

/-- The text of a value that is one. -/
def text? : Value → Option String
  | .text s => some s
  | _ => none

/-- Whether a value is a text or code points that are none. -/
def isTextual : Value → Bool
  | .text _ => true
  | .scalar (.broken _) => true
  | _ => false

/-- The code points of a text, or of code points that are none. -/
def points? : Value → Option Text.Points
  | .text s => some (.ofString s)
  | .scalar (.broken b) => some b.points
  | _ => none

/-- The code points tell which text a value is. -/
theorem eq_of_points?_eq {v w : Value} {ps : Text.Points} (hv : v.points? = some ps)
    (hw : w.points? = some ps) : v = w := by
  have hbroken (s : String) (b : Text.Broken) : Text.Points.ofString s ≠ b.points := by
    intro h
    have hb := b.isBroken
    rw [← h, Text.Points.ofString, Text.Points.isBroken_ofChars] at hb
    exact Bool.false_ne_true hb
  unfold points? at hv hw
  split at hv <;> split at hw <;> simp only [Option.some.injEq, reduceCtorEq] at hv hw
  · rw [Text.Points.ofString_inj.mp (hv.trans hw.symm)]
  · exact absurd (hv.trans hw.symm) (hbroken _ _)
  · exact absurd (hw.trans hv.symm) (hbroken _ _)
  · rw [Text.Broken.ext (hv.trans hw.symm)]

end Value

/-- The scalar of code points: a text, if they are one. -/
def Scalar.ofPoints (ps : Text.Points) : Scalar :=
  if h : ps.isBroken = true then .broken ⟨ps, h⟩ else .text (String.ofList ps.chars)

theorem Scalar.ofPoints_ofString (s : String) : ofPoints (.ofString s) = .text s := by
  simp [ofPoints, Text.Points.ofString, Text.Points.isBroken_ofChars, Text.Points.chars_ofChars]

/-- A text is the scalar of its code points. -/
theorem Value.eq_ofPoints {v : Value} {ps : Text.Points} (h : v.points? = some ps) :
    v = .scalar (.ofPoints ps) := by
  unfold points? at h
  split at h <;> cases h
  · rw [Scalar.ofPoints_ofString]
  · rename_i b
    rw [Scalar.ofPoints, dif_pos b.isBroken]

/-- The word for the kind of a scalar. -/
def Scalar.kindName : Scalar → String
  | .null => "NoneType"
  | .bool _ => "bool"
  | .int _ => "int"
  | .float _ => "float"
  | .text _ => "str"
  | .broken _ => "str"
  | .bytes _ => "bytes"
  | .date _ => "date"
  | .timestamp _ => "datetime"

/-- The word for a kind of container. -/
def Container.kindName : Container → String
  | .list => "list"
  | .tuple => "tuple"
  | .map => "dict"
  | .set => "set"

/-- The word for the kind of a value. -/
def Value.kindName : Value → String
  | .scalar s => s.kindName
  | .list _ => Container.list.kindName
  | .tuple _ => Container.tuple.kindName
  | .map _ => Container.map.kindName
  | .set _ => Container.set.kindName
  | .again c => c.kindName

end CaseGrid
