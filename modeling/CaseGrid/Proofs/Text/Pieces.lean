import CaseGrid.Text.Split
import Mathlib.Data.List.Infix

/-
  When cutting undoes gluing. The cut after a piece falls where the piece ends unless the separator
  is found earlier, and then it lies in the piece and all but the last item of the separator that
  follows it. A piece that ends with the beginning of a separator that overlaps itself can do that
  without holding the separator.

  Proved: cutting gives the pieces back exactly when no piece but the last meets the separator early
  and the last one does not hold it (`pieces_glue_iff`).
-/

namespace CaseGrid.Text

variable {α : Type}

/-- Glued pieces are as long as the pieces and a separator between any two of them. -/
theorem length_glue (separator : List α) (ps : List (List α)) :
    (glue separator ps).length = ps.flatten.length + (ps.length - 1) * separator.length := by
  induction ps with
  | nil => simp [glue]
  | cons p ps ih =>
    by_cases hps : ps = []
    · simp [hps, glue]
    · have hpos : 0 < ps.length := List.length_pos_iff.mpr hps
      have hmul : ps.length * separator.length =
          (ps.length - 1) * separator.length + separator.length := by
        rw [← Nat.succ_mul, Nat.succ_eq_add_one, Nat.sub_add_cancel hpos]
      rw [glue_cons _ _ hps, List.length_append, List.length_append, ih]
      simp only [List.flatten_cons, List.length_append, List.length_cons, Nat.add_sub_cancel]
      omega

/-- The separator is not found before the end of a piece that it follows. -/
def EndsClear (separator piece : List α) : Prop :=
  ¬ separator <:+: piece ++ separator.dropLast

theorem endsClear_nil {separator : List α} (hs : separator ≠ []) : EndsClear separator [] := by
  intro h
  have hle : separator.length ≤ separator.dropLast.length := by simpa using h.length_le
  have hpos : 0 < separator.length := List.length_pos_iff.mpr hs
  rw [List.length_dropLast] at hle
  omega

/-- With a separator of two equal items, a piece ends clear when it neither holds the separator
nor ends with the item. -/
theorem endsClear_pair_iff {c : α} {p : List α} :
    EndsClear [c, c] p ↔ ¬ [c, c] <:+: p ∧ p.getLast? ≠ some c := by
  have hlast : [c, c] <:+ p ++ [c] ↔ p.getLast? = some c := by
    constructor
    · rintro ⟨before, h⟩
      have happend : before ++ [c] ++ [c] = p ++ [c] := by simpa using h
      rw [← List.append_cancel_right happend, List.getLast?_concat]
    · intro h
      obtain ⟨before, rfl⟩ := List.getLast?_eq_some_iff.mp h
      exact ⟨before, by simp⟩
  rw [EndsClear, List.dropLast_cons_cons, List.dropLast_singleton, List.infix_concat_iff, hlast]
  tauto

/-- Where the separator opens a piece and what follows, it lies in the piece and the separator
without its last item. -/
theorem prefix_piece_iff {separator : List α} {c : α} {p rest : List α} :
    separator <+: c :: p ++ separator.dropLast ↔ separator <+: c :: p ++ separator ++ rest := by
  have hle : separator.length ≤ (c :: p ++ separator.dropLast).length := by
    simp
    omega
  have hlong : c :: p ++ separator.dropLast <+: c :: p ++ separator ++ rest :=
    ((List.prefix_append_right_inj _).mpr (List.dropLast_prefix _)).trans (List.prefix_append _ _)
  exact ⟨fun h => h.trans hlong, fun h => List.prefix_of_prefix_length_le h hlong hle⟩

theorem endsClear_cons_iff {separator p : List α} {c : α} :
    EndsClear separator (c :: p) ↔ ¬ separator <+: c :: p ++ separator ∧ EndsClear separator p := by
  have hhere : separator <+: c :: p ++ separator.dropLast ↔ separator <+: c :: p ++ separator := by
    rw [@prefix_piece_iff α separator c p [], List.append_nil]
  rw [← hhere, EndsClear, List.cons_append, List.infix_cons_iff, not_or]
  rfl

variable [BEq α]

theorem piecesFrom_skip (separator xs rest : List α) :
    piecesFrom separator xs.length [] (xs ++ rest) = pieces separator rest := by
  induction xs with
  | nil => rfl
  | cons x xs ih =>
    rw [List.length_cons, List.cons_append, piecesFrom, ih]

variable [LawfulBEq α]

/-- A piece that ends clear is cut off whole. -/
theorem piecesFrom_of_endsClear {separator : List α} (hs : separator ≠ []) {p : List α}
    (h : EndsClear separator p) (acc rest : List α) :
    piecesFrom separator 0 acc (p ++ separator ++ rest) =
      (acc.reverse ++ p) :: pieces separator rest := by
  induction p generalizing acc with
  | nil =>
    obtain ⟨s, ss, rfl⟩ := List.exists_cons_of_ne_nil hs
    have hopen : (s :: ss).isPrefixOf (s :: (ss ++ rest)) = true :=
      List.isPrefixOf_iff_prefix.mpr ⟨rest, rfl⟩
    rw [List.nil_append, List.cons_append, piecesFrom, if_pos hopen, List.length_cons,
      Nat.add_sub_cancel, piecesFrom_skip, List.append_nil]
  | cons c p ih =>
    rw [EndsClear, List.cons_append, List.infix_cons_iff, not_or] at h
    have hopen : ¬ separator.isPrefixOf (c :: (p ++ separator ++ rest)) = true := fun hp =>
      h.1 (prefix_piece_iff.mpr (List.isPrefixOf_iff_prefix.mp hp))
    rw [List.cons_append, List.cons_append, piecesFrom, if_neg hopen, ih h.2]
    simp

/-- A piece that does not end clear is cut too early. -/
theorem piecesFrom_of_not_endsClear {separator : List α} (hs : separator ≠ []) {p : List α}
    (h : ¬ EndsClear separator p) (acc rest : List α) :
    ∃ q qs, piecesFrom separator 0 acc (p ++ separator ++ rest) = q :: qs ∧
      q.length < acc.length + p.length := by
  induction p generalizing acc with
  | nil => exact absurd (endsClear_nil hs) h
  | cons c p ih =>
    rw [EndsClear, not_not, List.cons_append, List.infix_cons_iff] at h
    rw [List.cons_append, List.cons_append, piecesFrom]
    split
    · exact ⟨_, _, rfl, by simp⟩
    · rename_i hopen
      have hlater : separator <:+: p ++ separator.dropLast := by
        rcases h with h | h
        · exact absurd (List.isPrefixOf_iff_prefix.mpr (prefix_piece_iff.mp h)) hopen
        · exact h
      obtain ⟨q, qs, hq, hlt⟩ := ih (not_not.mpr hlater) (c :: acc)
      refine ⟨q, qs, hq, ?_⟩
      rw [List.length_cons] at hlt ⊢
      omega

/-- The first cut falls where a piece ends exactly when the piece ends clear. -/
theorem pieces_append_iff {separator : List α} (hs : separator ≠ []) {p rest : List α}
    {ps : List (List α)} :
    pieces separator (p ++ separator ++ rest) = p :: ps ↔
      EndsClear separator p ∧ pieces separator rest = ps := by
  by_cases h : EndsClear separator p
  · rw [pieces, piecesFrom_of_endsClear hs h]
    simp [h]
  · obtain ⟨q, qs, hq, hlt⟩ := piecesFrom_of_not_endsClear hs h [] rest
    rw [pieces, hq]
    simp only [h, false_and, iff_false]
    intro heq
    obtain ⟨rfl, -⟩ := List.cons.inj heq
    simp at hlt

theorem piecesFrom_of_not_infix {separator p : List α} (h : ¬ separator <:+: p)
    (acc : List α) : piecesFrom separator 0 acc p = [acc.reverse ++ p] := by
  induction p generalizing acc with
  | nil => simp [piecesFrom]
  | cons c p ih =>
    rw [List.infix_cons_iff, not_or] at h
    rw [piecesFrom, if_neg (fun hp => h.1 (List.isPrefixOf_iff_prefix.mp hp)), ih h.2]
    simp

theorem pieces_eq_singleton_iff {separator : List α} (hs : separator ≠ []) {p : List α} :
    pieces separator p = [p] ↔ ¬ separator <:+: p := by
  constructor
  · rintro h ⟨before, after, rfl⟩
    by_cases hclear : EndsClear separator before
    · rw [pieces, piecesFrom_of_endsClear hs hclear] at h
      exact piecesFrom_ne_nil _ _ _ _ (List.cons.inj h).2
    · obtain ⟨q, qs, hq, hlt⟩ := piecesFrom_of_not_endsClear hs hclear [] after
      rw [pieces, hq] at h
      obtain ⟨rfl, -⟩ := List.cons.inj h
      rw [List.length_nil, List.length_append, List.length_append] at hlt
      omega
  · intro h
    exact piecesFrom_of_not_infix h []

/-- Cutting undoes gluing exactly when each piece but the last ends clear and the last one does
not hold the separator. -/
theorem pieces_glue_iff {separator : List α} (hs : separator ≠ []) {ps : List (List α)}
    (hne : ps ≠ []) :
    pieces separator (glue separator ps) = ps ↔
      (∀ p ∈ ps.dropLast, EndsClear separator p) ∧ ∀ p ∈ ps.getLast?, ¬ separator <:+: p := by
  induction ps with
  | nil => exact absurd rfl hne
  | cons p ps ih =>
    cases ps with
    | nil => simpa [glue] using pieces_eq_singleton_iff hs
    | cons q qs =>
      rw [glue_cons _ _ (by simp), pieces_append_iff hs, ih (by simp), List.dropLast_cons_cons,
        List.forall_mem_cons, List.getLast?_cons_cons, and_assoc]

end CaseGrid.Text
