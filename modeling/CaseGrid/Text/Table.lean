import CaseGrid.Failure.Fault

/-
  Tables of text. Columns are as wide as their widest cell, at least as wide as a given width,
  and every cell is filled up with spaces on its right; a rule of dashes parts the headers from
  the rows. A table without rows is empty. Also the plural of a counted word.
-/

namespace CaseGrid.Text

/-- A text filled up with spaces on its right. -/
def fillRight (width : Nat) (s : String) : String :=
  s ++ String.ofList (List.replicate (width - s.length) ' ')

theorem length_fillRight (width : Nat) (s : String) :
    (fillRight width s).length = max width s.length := by
  simp [fillRight, String.length_append]
  omega

namespace Table

/-- The cell of a column in each row. -/
def column (rows : List (List String)) (i : Nat) : Except Fault (List String) :=
  rows.mapM fun row =>
    match row[i]? with
    | some cell => .ok cell
    | none => .error .missingCell

/-- The width of a column with a header. A negative least width is no bound. -/
def columnWidth (minWidth : Int) (header : String) (cells : List String) : Nat :=
  cells.foldl (fun w cell => max w cell.length) (max minWidth.toNat header.length)

/-- The widths of the columns, counted from `i`. -/
def widthsFrom (minWidth : Int) (rows : List (List String)) (i : Nat) :
    List String → Except Fault (List Nat)
  | [] => .ok []
  | header :: headers => do
    let cells ← column rows i
    return columnWidth minWidth header cells :: (← widthsFrom minWidth rows (i + 1) headers)

/-- The cells of a row at their widths; a cell beyond the columns is a fault. -/
def fillRow : List Nat → List String → Except Fault (List String)
  | _, [] => .ok []
  | [], _ :: _ => .error .missingCell
  | w :: ws, cell :: cells => (fillRow ws cells).map (fillRight w cell :: ·)

/-- The blanks that every line begins with. -/
def margin : String := "   "

/-- The line of a row. -/
def line (widths : List Nat) (row : List String) : Except Fault String :=
  (fillRow widths row).map fun cells => margin ++ " | ".intercalate cells

/-- The rule below the headers. -/
def rule (widths : List Nat) : String :=
  margin ++ "-+-".intercalate (widths.map fun w => String.ofList (List.replicate w '-'))

/-- The least width of a column unless another is given. -/
def defaultWidth : Nat := 6

/-- The table of some rows below headers. -/
def format (headers : List String) (rows : List (List String)) (minWidth : Int) :
    Except Fault String :=
  if rows.isEmpty then .ok ""
  else do
    let widths ← widthsFrom minWidth rows 0 headers
    let head ← line widths headers
    let body ← rows.mapM (line widths)
    return "\n".intercalate (head :: rule widths :: body)

end Table

/-- A word for a number of things. -/
def plural (n : Int) (word : String) : String :=
  if n = 1 then word else word ++ "s"

/-- A number of things in words. -/
def counted (n : Nat) (word : String) : String :=
  toString n ++ " " ++ plural n word

end CaseGrid.Text
