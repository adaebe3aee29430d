import CaseGrid.Proofs.Path.Pattern
import CaseGrid.Proofs.Path.RoundTrip

/-
  How far writing and reading paths undo each other, for any separator that is not empty. What is
  read was written: cutting and gluing give the text back. What is written reads back only for some
  paths. The empty text stands for the path without segments, so the path of one empty segment is
  lost; the last segment must not hold the separator; and the separator that follows a segment must
  not be found before the segment ends.

  Proved: `read_write_iff`, both directions, over all code points.
-/

namespace CaseGrid

open CaseGrid.Text (Points EndsClear endsClear_nil glue glue_cons glue_pieces
  infix_glue pieces)

namespace Text

/-! ## The first separator in a text -/

/-- A separator is first found at a position of a text. -/
def FirstAt {α : Type} (separator text : List α) (n : Nat) : Prop :=
  separator <+: text.drop n ∧ ∀ m < n, ¬ separator <+: text.drop m

instance {α : Type} [DecidableEq α] (separator text : List α) (n : Nat) :
    Decidable (FirstAt separator text n) :=
  inferInstanceAs (Decidable (_ ∧ _))

/-- A piece ends clear if the separator after it is the first one that is found. -/
theorem firstAt_iff_endsClear {α : Type} {separator piece : List α} (hs : separator ≠ []) :
    FirstAt separator (piece ++ separator) piece.length ↔ EndsClear separator piece := by
  rw [FirstAt, List.drop_left, and_iff_right List.prefix_rfl]
  induction piece with
  | nil => exact iff_of_true nofun (endsClear_nil hs)
  | cons c p ih =>
    rw [endsClear_cons_iff, ← ih]
    constructor
    · exact fun h => ⟨h 0 (Nat.succ_pos _), fun m hm => h (m + 1) (Nat.succ_lt_succ hm)⟩
    · rintro ⟨hzero, hlater⟩ m hm
      cases m with
      | zero => exact hzero
      | succ m => exact hlater m (Nat.lt_of_succ_lt_succ hm)

/-! ## Code points of strings -/

/-- Each number is the code point of a character or half of a pair. -/
def Points.Valid (ps : Points) : Prop :=
  ∀ n ∈ ps, n < 0x110000

theorem Points.valid_ofString (s : String) : (Points.ofString s).Valid := by
  intro n hn
  obtain ⟨c, -, rfl⟩ := List.mem_map.mp hn
  have h : c.toNat < 0xD800 ∨ 0xDFFF < c.toNat ∧ c.toNat < 0x110000 := c.valid
  omega

theorem Points.ofChars_chars {ps : Points} (h : ps.Valid) (hb : ps.isBroken = false) :
    Points.ofChars ps.chars = ps := by
  have hpoint : ∀ n ∈ ps, (if isHalf n then '?' else Char.ofNat n).toNat = n := by
    intro n hn
    have hhalf : isHalf n = false := by
      have hnot := List.any_eq_false.mp hb n hn
      simpa using hnot
    have hvalid : n.isValidChar := by
      have hlt := h n hn
      simp only [isHalf, Bool.and_eq_false_iff, decide_eq_false_iff_not] at hhalf
      rw [Nat.isValidChar]
      omega
    rw [hhalf, if_neg Bool.false_ne_true, Char.ofNat, dif_pos hvalid]
    rfl
  rw [Points.ofChars, Points.chars, List.map_map]
  exact (List.map_congr_left hpoint).trans (List.map_id _)

end Text

namespace Path

/-- Code points are those of their scalar. -/
theorem points?_ofPoints {ps : Points} (h : ps.Valid) :
    (Value.scalar (.ofPoints ps)).points? = some ps := by
  rw [Scalar.ofPoints]
  split
  · rfl
  · rename_i hb
    rw [Bool.not_eq_true] at hb
    rw [Value.points?, Points.ofString, String.toList_ofList, Points.ofChars_chars h hb]

theorem points_ofPoints {pss : List Points} (h : ∀ ps ∈ pss, ps.Valid) :
    points (pss.map fun ps => .scalar (.ofPoints ps)) = .ok pss := by
  rw [points_eq_ok_iff, List.map_map]
  exact List.map_congr_left fun ps hps => points?_ofPoints (h ps hps)

/-! ## Reading and writing -/

section

variable {separator : String}

/-- What was read is written as it was. -/
theorem write_ofWritten (hs : separator ≠ "") {text : Points} (h : text.Valid) :
    ofWritten separator text >>= write separator = .ok text := by
  have hs' : Points.ofString separator ≠ [] := fun h => hs (Points.ofString_eq_nil.mp h)
  by_cases htext : text = []
  · subst htext
    rfl
  · have hvalid : ∀ ps ∈ pieces (Points.ofString separator) text, Points.Valid ps := by
      intro ps hps n hn
      have hin := infix_glue (Points.ofString separator) hps
      rw [glue_pieces hs'] at hin
      exact h n (hin.subset hn)
    rw [ofWritten, read, if_neg htext, if_neg hs]
    refine (write_eq_ok (points_ofPoints hvalid) separator).trans ?_
    rw [glue_pieces hs']

theorem glue_eq_nil_iff {sep : Points} (hs : sep ≠ []) {pss : List Points} :
    glue sep pss = [] ↔ pss = [] ∨ pss = [[]] := by
  constructor
  · intro h
    match pss with
    | [] => exact .inl rfl
    | [ps] => exact .inr (congrArg (fun x => [x]) h)
    | ps :: qs :: pss =>
      rw [glue_cons _ _ (by simp)] at h
      simp [hs] at h
  · rintro (rfl | rfl) <;> rfl

/-- What was written is read as it was, except for these paths. -/
theorem ofWritten_write (hs : separator ≠ "") {path : Path} {pss : List Points}
    (h : path.points = .ok pss) :
    write separator path >>= ofWritten separator = .ok path ↔
      path ≠ [.text ""] ∧ (∀ ps ∈ pss.getLast?, ¬ Points.ofString separator <:+: ps) ∧
        ∀ ps ∈ pss.dropLast, EndsClear (Points.ofString separator) ps := by
  have hs' : Points.ofString separator ≠ [] := fun h => hs (Points.ofString_eq_nil.mp h)
  by_cases hne : glue (Points.ofString separator) pss = []
  · rcases (glue_eq_nil_iff hs').mp hne with rfl | rfl
    · obtain rfl : path = [] := eq_ofPoints h
      exact iff_of_true rfl ⟨nofun, nofun, nofun⟩
    · obtain rfl : path = [.text ""] := eq_ofPoints h
      exact iff_of_false nofun fun hpath => hpath.1 rfl
  · have hpath : path ≠ [.text ""] := by
      rintro rfl
      cases h
      exact hne rfl
    rw [write_eq_ok h, and_iff_right hpath, and_comm]
    exact ofWritten_glue_iff hs h hne

end

/--
With a separator that is not empty, each text is written again as it was read; and a path of texts
is read again as it was written just if it is not the path of one empty segment, its last segment
does not hold the separator, and after each other segment the separator is first found where the
segment ends.
-/
theorem read_write_iff {separator : String} (hs : separator ≠ "") :
    (∀ text : Points, text.Valid → ofWritten separator text >>= write separator = .ok text) ∧
    ∀ (path : Path) (pss : List Points), path.points = .ok pss →
      (write separator path >>= ofWritten separator = .ok path ↔
        path ≠ [.text ""] ∧ (∀ ps ∈ pss.getLast?, ¬ Points.ofString separator <:+: ps) ∧
          ∀ ps ∈ pss.dropLast,
            Text.FirstAt (Points.ofString separator) (ps ++ Points.ofString separator) ps.length) := by
  have hs' : Points.ofString separator ≠ [] := fun h => hs (Points.ofString_eq_nil.mp h)
  refine ⟨fun text htext => write_ofWritten hs htext, fun path pss h => ?_⟩
  simp only [Text.firstAt_iff_endsClear hs']
  exact ofWritten_write hs h

/-- With the separator of two colons three colons are read from the left, so that a segment that
ends with a colon is read back without it. -/
theorem read_write_colons :
    (ofWritten "::" (.ofString "a:::b") >>= write "::" = .ok (.ofString "a:::b")) ∧
      write "::" [.text "a:", .text "b"] >>= ofWritten "::" ≠ .ok [.text "a:", .text "b"] ∧
      write "::" [.text "a", .text ":b"] >>= ofWritten "::" = .ok [.text "a", .text ":b"] := by
  have hsep : "::" ≠ "" := by decide
  obtain ⟨hread, hwrite⟩ := read_write_iff hsep
  refine ⟨hread _ (Points.valid_ofString _), fun h => ?_, ?_⟩
  · obtain ⟨-, -, hfirst⟩ := (hwrite _ [.ofString "a:", .ofString "b"] rfl).mp h
    exact absurd (hfirst _ List.mem_cons_self) (by decide)
  · refine (hwrite _ [.ofString "a", .ofString ":b"] rfl).mpr ⟨by simp, ?_, ?_⟩
    · rintro _ ⟨⟩
      decide
    · decide

end Path

end CaseGrid
