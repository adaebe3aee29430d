import CaseGrid.Proofs.Text.Columns
import CaseGrid.Proofs.Text.Table

/-
  The columns of a table stand below one another. Every line is its margin and then pieces as wide
  as the columns, with a separator of three characters between them (`InColumns`), so that where the
  separators stand depends on the widths only: in the rule, where they are all that is not a dash,
  they can be read off, and the lines of cells have theirs at the same offsets. A cell that holds a
  bar itself moves nothing.

  Proved: `format_aligned`, for every table with headers and rows whose texts have no line break.
-/

namespace CaseGrid.Text.Table

/-- The parts of a line between the margin, the separators at some offsets, and the end. -/
def parts (ks : List Nat) (line : String) : List (List Char) :=
  slices 3 line.toList margin.length ks

/-- A line shows the cells of a row in columns that bars at some offsets part. -/
structure Shows (ks : List Nat) (line : String) (row : List String) : Prop where
  begins_margin : margin.toList <+: line.toList
  parted : ∀ k ∈ ks, k ∈ offsets " | " line
  /-- If no cell holds a bar, there are no others. -/
  parted_only : (∀ cell ∈ row, '|' ∉ cell.toList) → offsets " | " line = ks
  /-- Between the bars are the cells, each from its first character on and then blanks only. -/
  cells : List.Forall₂ (fun part cell => ∃ n, part = cell.toList ++ List.replicate n ' ')
    (parts ks line) row

/-! ## Lines in columns -/

/-- A line is a margin and pieces of some widths with a separator of three characters between. -/
structure InColumns (separator : List Char) (widths : List Nat) (ps : List (List Char))
    (line : String) : Prop where
  toList_eq : line.toList = margin.toList ++ glue separator ps
  map_length : ps.map List.length = widths
  length_separator : separator.length = 3

namespace InColumns

variable {separator : List Char} {widths : List Nat} {ps : List (List Char)} {line : String}

theorem drop_margin (h : InColumns separator widths ps line) :
    line.toList.drop margin.length = glue separator ps := by
  rw [h.toList_eq]
  exact List.drop_left' rfl

/-- How long a line is depends on the widths only. -/
theorem length_eq {other : List Char} {qs : List (List Char)} {line' : String}
    (h : InColumns separator widths ps line) (h' : InColumns other widths qs line') :
    line.length = line'.length := by
  have hflatten : ps.flatten.length = qs.flatten.length := by
    rw [List.length_flatten, List.length_flatten, h.map_length, h'.map_length]
  have hcount : ps.length = qs.length := by
    rw [← List.length_map List.length, h.map_length, ← h'.map_length, List.length_map]
  rw [← String.length_toList, ← String.length_toList, h.toList_eq, h'.toList_eq,
    List.length_append, List.length_append, length_glue, length_glue, hflatten, hcount,
    h.length_separator, h'.length_separator]

theorem parts_eq (h : InColumns separator widths ps line) (hne : ps ≠ []) :
    parts (ends 3 margin.length widths) line = ps := by
  rw [parts, ← h.map_length, ← h.length_separator]
  exact slices_ends hne h.drop_margin

theorem prefix_drop (h : InColumns separator widths ps line) {k : Nat}
    (hk : k ∈ ends 3 margin.length widths) : separator <+: line.toList.drop k := by
  rw [← h.map_length, ← h.length_separator] at hk
  exact prefix_drop_of_mem_ends h.drop_margin hk

theorem positions_eq {a b : Char} (h : InColumns [a, b, a] widths ps line) (hab : a ≠ b)
    (hmargin : b ∉ margin.toList) (hps : ∀ p ∈ ps, b ∉ p) :
    positions [a, b, a] line.toList = ends 3 margin.length widths := by
  rw [h.toList_eq, positions_append_glue hab hmargin hps, h.map_length, String.length_toList]

theorem not_mem (h : InColumns separator widths ps line) {c : Char} (hmargin : c ∉ margin.toList)
    (hc : c ∉ separator) (hps : ∀ p ∈ ps, c ∉ p) : c ∉ line.toList := by
  rw [h.toList_eq, List.mem_append, not_or]
  exact ⟨hmargin, not_mem_glue hc hps⟩

end InColumns

/-! ## The lines of a table -/

section Lines

variable {widths : List Nat} {row : List String}

theorem inColumns_rule (widths : List Nat) : InColumns "-+-".toList widths
    (widths.map fun w => List.replicate w '-') (rule widths) where
  toList_eq := by
    rw [rule, String.toList_append, String.toList_intercalate, intercalate_eq_glue, List.map_map]
    simp [Function.comp_def]
  map_length := by simp [Function.comp_def]
  length_separator := rfl

theorem eq_dash_of_mem {p : List Char} {c : Char}
    (hp : p ∈ widths.map fun w => List.replicate w '-') (hc : c ∈ p) : c = '-' := by
  obtain ⟨w, -, rfl⟩ := List.mem_map.mp hp
  exact List.eq_of_mem_replicate hc

theorem not_mem_dashes {c : Char} (hc : c ≠ '-') :
    ∀ p ∈ widths.map fun w => List.replicate w '-', c ∉ p :=
  fun _ hp h => hc (eq_dash_of_mem hp h)

/-- The rule shows where the columns end. -/
theorem offsets_rule (widths : List Nat) :
    offsets "-+-" (rule widths) = ends 3 margin.length widths :=
  (inColumns_rule widths).positions_eq (by decide) (by decide) (not_mem_dashes (by decide))

/-- The cells of a row, filled up. -/
theorem forall₂_filled (h : Fits widths row) :
    List.Forall₂ (fun part cell => ∃ n, part = cell.toList ++ List.replicate n ' ')
      ((List.zipWith fillRight widths row).map String.toList) row := by
  induction h with
  | nil => exact .nil
  | @cons w cell _ _ _ _ ih =>
    refine .cons ⟨w - cell.length, ?_⟩ ih
    rw [fillRight, String.toList_append, String.toList_ofList]

theorem inColumns_filled (h : Fits widths row) : InColumns " | ".toList widths
    ((List.zipWith fillRight widths row).map String.toList) (filled widths row) where
  toList_eq := by
    rw [filled, String.toList_append, String.toList_intercalate, intercalate_eq_glue]
  map_length := by
    rw [List.map_map]
    induction h with
    | nil => rfl
    | cons hle _ ih =>
      rw [List.zipWith_cons_cons, List.map_cons, ih]
      congr 1
      rw [Function.comp_apply, String.length_toList, length_fillRight, Nat.max_eq_left hle]
  length_separator := rfl

/-- Filling cells up with blanks adds no other character. -/
theorem not_mem_filled (h : Fits widths row) {c : Char} (hc : c ≠ ' ')
    (hrow : ∀ cell ∈ row, c ∉ cell.toList) :
    ∀ p ∈ (List.zipWith fillRight widths row).map String.toList, c ∉ p := by
  intro p hp
  obtain ⟨cell, hcell, n, rfl⟩ := exists_of_mem_forall₂ (forall₂_filled h).flip hp
  rw [List.mem_append, not_or]
  exact ⟨hrow cell hcell, fun hblank => hc (List.eq_of_mem_replicate hblank)⟩

/-- The line of a row shows it in the columns of the table. -/
theorem shows_filled (h : Fits widths row) (hne : row ≠ []) :
    Shows (ends 3 margin.length widths) (filled widths row) row where
  begins_margin := ⟨_, (inColumns_filled h).toList_eq.symm⟩
  parted := fun k hk =>
    (mem_positions_iff (by decide)).mpr ((inColumns_filled h).prefix_drop hk)
  parted_only := fun hbars =>
    (inColumns_filled h).positions_eq (by decide) (by decide)
      (not_mem_filled h (by decide) hbars)
  cells := by
    have hcells := forall₂_filled h
    have hparts : (List.zipWith fillRight widths row).map String.toList ≠ [] := by
      intro hnil
      rw [hnil] at hcells
      cases hcells
      exact hne rfl
    rw [(inColumns_filled h).parts_eq hparts]
    exact hcells

variable {headers : List String} {rows : List (List String)}

/-- What holds of the rule and of the line of each row holds of all lines. -/
theorem forall_mem_lines {P : String → Prop}
    (hrule : P (rule widths)) (hrows : ∀ row ∈ headers :: rows, P (filled widths row)) :
    ∀ line ∈ filled widths headers :: rule widths :: rows.map (filled widths), P line := by
  obtain ⟨hheaders, hrows⟩ := List.forall_mem_cons.mp hrows
  exact List.forall_mem_cons.mpr ⟨hheaders, List.forall_mem_cons.mpr
    ⟨hrule, List.forall_mem_map.mpr hrows⟩⟩

/-- No line of a table is broken if no text in it is. -/
theorem split_lines (hfits : ∀ row ∈ headers :: rows, Fits widths row)
    (hbreaks : ∀ row ∈ headers :: rows, ∀ cell ∈ row, '\n' ∉ cell.toList) :
    split "\n" ("\n".intercalate
      (filled widths headers :: rule widths :: rows.map (filled widths))) =
        filled widths headers :: rule widths :: rows.map (filled widths) := by
  refine split_intercalate (c := '\n') rfl (by simp) (forall_mem_lines ?_ fun row hrow => ?_)
  · exact (inColumns_rule widths).not_mem (by decide) (by decide) (not_mem_dashes (by decide))
  · exact (inColumns_filled (hfits row hrow)).not_mem (by decide) (by decide)
      (not_mem_filled (hfits row hrow) (by decide) (hbreaks row hrow))

end Lines

/--
A table with headers and rows, each row with a cell for each header, is aligned. Its lines are the
one of the headers, a rule, and one for each row, all of the same length. Crosses part the rule into
dashes. The line of the headers and of each row has a bar at the offset of every cross, no other if
none of its cells holds one, and between the bars the cells, each followed by blanks only.
-/
theorem format_aligned (headers : List String) (rows : List (List String)) (minWidth : Int)
    (hheaders : headers ≠ []) (hrows : rows ≠ [])
    (hcells : ∀ row ∈ rows, row.length = headers.length)
    (hbreaks : ∀ row ∈ headers :: rows, ∀ cell ∈ row, '\n' ∉ cell.toList) :
    ∃ text head dashes body, format headers rows minWidth = .ok text ∧
      split "\n" text = head :: dashes :: body ∧
      (∀ line ∈ head :: dashes :: body, line.length = dashes.length) ∧
      (∀ part ∈ parts (offsets "-+-" dashes) dashes, ∀ c ∈ part, c = '-') ∧
      List.Forall₂ (Shows (offsets "-+-" dashes)) (head :: body) (headers :: rows) := by
  obtain ⟨widths, hfits, hformat⟩ := format_eq minWidth hrows hcells
  have hwidths : widths ≠ [] := by
    rintro rfl
    cases hfits headers (.head _)
    exact hheaders rfl
  have hfilled : ∀ row ∈ headers :: rows, row ≠ [] := by
    rintro row hrow rfl
    cases hfits [] hrow
    exact hwidths rfl
  refine ⟨_, filled widths headers, rule widths, rows.map (filled widths), hformat,
    split_lines hfits hbreaks, forall_mem_lines rfl fun row hrow => ?_, ?_, ?_⟩
  · exact (inColumns_filled (hfits row hrow)).length_eq (inColumns_rule widths)
  · rw [offsets_rule, (inColumns_rule widths).parts_eq (by simpa using hwidths)]
    exact fun part hpart c hc => eq_dash_of_mem hpart hc
  · rw [offsets_rule, ← List.map_cons, List.forall₂_map_left_iff, List.forall₂_same]
    exact fun row hrow => shows_filled (hfits row hrow) (hfilled row hrow)

/-- Rows with a bar in a cell and with an empty cell. -/
def barredRows : List (List String) := [["a | b", ""], ["s::a::A1", "failed"]]

/-- The bar in the cell moves neither the bar after it nor the cells. -/
theorem format_aligned_barredRows :
    ∃ text, format ["Case", "Outcome"] barredRows (-1) = .ok text ∧
      split "\n" text = ["   Case     | Outcome", "   ---------+--------",
        "   a | b    |        ", "   s::a::A1 | failed "] ∧
      List.Forall₂ (Shows [11])
        ["   Case     | Outcome", "   a | b    |        ", "   s::a::A1 | failed "]
        (["Case", "Outcome"] :: barredRows) := by
  obtain ⟨text, head, dashes, body, hformat, hsplit, -, -, hshows⟩ :=
    format_aligned ["Case", "Outcome"] barredRows (-1) (by decide) (by decide) (by decide)
      (by decide)
  have hlines : (format ["Case", "Outcome"] barredRows (-1)).map (split "\n") =
      .ok ["   Case     | Outcome", "   ---------+--------", "   a | b    |        ",
        "   s::a::A1 | failed "] := rfl
  rw [hformat] at hlines
  replace hlines := Except.ok.inj hlines
  have hoffsets : offsets "-+-" "   ---------+--------" = [11] := by decide
  rw [hlines] at hsplit
  cases hsplit
  rw [hoffsets] at hshows
  exact ⟨_, hformat, hlines, hshows⟩

end CaseGrid.Text.Table
