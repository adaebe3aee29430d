import CaseGrid.Proofs.Except
import CaseGrid.Text.Table
import Mathlib.Data.List.GetD

/-
  Tables whose rows have one cell for each header. No cell of such a table is missing, so that it
  can always be written: a line of headers, a rule, and a line for each row. Each column is wide
  enough for its header and for its cell in every row (`Fits`).

  Proved: `format_eq`, from the widths of the columns (`exists_widthsFrom`) and the line of a row
  that has as many cells as there are columns (`line_eq`).
-/

namespace CaseGrid.Text.Table

/-- The line of a row, each cell filled up to the width of its column. -/
def filled (widths : List Nat) (row : List String) : String :=
  margin ++ " | ".intercalate (List.zipWith fillRight widths row)

variable {headers : List String} {rows : List (List String)}

theorem fillRow_eq {widths : List Nat} {row : List String} (h : row.length = widths.length) :
    fillRow widths row = .ok (List.zipWith fillRight widths row) := by
  induction row generalizing widths with
  | nil => cases widths <;> rfl
  | cons cell row ih =>
    match widths with
    | [] => cases h
    | w :: widths =>
      rw [fillRow, ih (Nat.succ.inj h)]
      rfl

theorem line_eq {widths : List Nat} {row : List String} (h : row.length = widths.length) :
    line widths row = .ok (filled widths row) := by
  rw [line, fillRow_eq h]
  rfl

/-! ## Widths -/

/-- Every cell of a row is as long as its column is wide or shorter. -/
def Fits (widths : List Nat) (row : List String) : Prop :=
  List.Forall₂ (fun w cell => cell.length ≤ w) widths row

/-- The widest so far only grows, and is as wide as each cell. -/
theorem le_foldl_max_length (cells : List String) (start : Nat) :
    start ≤ cells.foldl (fun w cell => max w cell.length) start ∧
      ∀ cell ∈ cells, cell.length ≤ cells.foldl (fun w cell => max w cell.length) start := by
  induction cells generalizing start with
  | nil => exact ⟨Nat.le_refl start, nofun⟩
  | cons first cells ih =>
    obtain ⟨hstart, hcells⟩ := ih (max start first.length)
    refine ⟨Nat.le_trans (Nat.le_max_left _ _) hstart, List.forall_mem_cons.mpr ⟨?_, hcells⟩⟩
    exact Nat.le_trans (Nat.le_max_right _ _) hstart

theorem length_header_le (minWidth : Int) (header : String) (cells : List String) :
    header.length ≤ columnWidth minWidth header cells :=
  Nat.le_trans (Nat.le_max_right _ _) (le_foldl_max_length cells _).1

theorem length_cell_le (minWidth : Int) (header : String) {cells : List String} {cell : String}
    (h : cell ∈ cells) : cell.length ≤ columnWidth minWidth header cells :=
  (le_foldl_max_length cells _).2 cell h

theorem column_eq {i : Nat} (h : ∀ row ∈ rows, i < row.length) :
    column rows i = .ok (rows.map fun row => row.getD i "") := by
  refine mapM_eq_ok_iff.mpr (List.forall₂_map_right_iff.mpr (List.forall₂_same.mpr ?_))
  intro row hrow
  rw [List.getElem?_eq_getElem (h row hrow), List.getD_eq_getElem _ _ (h row hrow)]

/-- Columns from `i` on have widths that fit what the rows hold from there, if all end with the
headers. -/
theorem exists_widthsFrom (minWidth : Int) {i : Nat}
    (h : ∀ row ∈ rows, row.length = i + headers.length) :
    ∃ widths, widthsFrom minWidth rows i headers = .ok widths ∧ Fits widths headers ∧
      ∀ row ∈ rows, Fits widths (row.drop i) := by
  induction headers generalizing i with
  | nil =>
    refine ⟨[], rfl, .nil, fun row hrow => ?_⟩
    have hend : row.length ≤ i := Nat.le_of_eq (h row hrow)
    rw [List.drop_eq_nil_of_le hend]
    exact .nil
  | cons header headers ih =>
    simp only [List.length_cons] at h
    have hhere : ∀ row ∈ rows, i < row.length := by
      intro row hrow
      have := h row hrow
      omega
    have hrest : ∀ row ∈ rows, row.length = i + 1 + headers.length := by
      intro row hrow
      have := h row hrow
      omega
    obtain ⟨widths, hwidths, hheaders, hrows⟩ := ih hrest
    refine ⟨columnWidth minWidth header (rows.map fun row => row.getD i "") :: widths, ?_,
      .cons (length_header_le _ _ _) hheaders, fun row hrow => ?_⟩
    · rw [widthsFrom, column_eq hhere, hwidths]
      rfl
    · have hcell : row.getD i "" ∈ rows.map fun row => row.getD i "" :=
        List.mem_map.mpr ⟨row, hrow, rfl⟩
      have hdrop : row.drop i = row.getD i "" :: row.drop (i + 1) := by
        rw [List.getD_eq_getElem _ _ (hhere row hrow), List.getElem_cons_drop]
      rw [hdrop]
      exact .cons (length_cell_le _ _ hcell) (hrows row hrow)

/-! ## Tables -/

/-- A table of rows that have a cell for each header has a line for each row, in columns that fit
the headers and every row. -/
theorem format_eq (minWidth : Int) (hne : rows ≠ [])
    (h : ∀ row ∈ rows, row.length = headers.length) :
    ∃ widths, (∀ row ∈ headers :: rows, Fits widths row) ∧ format headers rows minWidth =
      .ok ("\n".intercalate (filled widths headers :: rule widths :: rows.map (filled widths))) := by
  obtain ⟨widths, hwidths, hheaders, hrows⟩ :=
    exists_widthsFrom minWidth (i := 0) (by simpa using h)
  have hfits : ∀ row ∈ headers :: rows, Fits widths row :=
    List.forall_mem_cons.mpr ⟨hheaders, hrows⟩
  have hline : ∀ row ∈ headers :: rows, line widths row = .ok (filled widths row) :=
    fun row hrow => line_eq (hfits row hrow).length_eq.symm
  have hbody : rows.mapM (line widths) = .ok (rows.map (filled widths)) := by
    refine mapM_eq_ok_iff.mpr (List.forall₂_map_right_iff.mpr (List.forall₂_same.mpr ?_))
    exact fun row hrow => hline row (.tail _ hrow)
  refine ⟨widths, hfits, ?_⟩
  rw [format, if_neg (by simpa using hne), hwidths]
  show (line widths headers >>= _) = _
  rw [hline headers (.head _)]
  show (rows.mapM (line widths) >>= _) = _
  rw [hbody]
  rfl

end CaseGrid.Text.Table
