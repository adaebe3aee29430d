import CaseGrid.Text.Split
import Mathlib.Data.List.Basic

/-
  Gluing with a separator of two equal items `c`, where every other piece is free of `c` and not
  empty. The pieces between them may begin and end with `c` as long as they do not hold the
  separator. Cutting does not always give such pieces back, but no two sequences of them are glued
  to the same (`glue_alternating_inj`): whatever a piece ends with, the separator after it stands
  right before the first other item, and a piece without `c` ends where the next `c` stands.
-/

namespace CaseGrid.Text

variable {α : Type} {c : α}

/-- Glued alike, pieces of the same lengths are the same. -/
theorem glue_inj_of_length {separator : List α} {ps qs : List (List α)}
    (hlength : ps.map List.length = qs.map List.length)
    (h : glue separator ps = glue separator qs) : ps = qs := by
  induction ps generalizing qs with
  | nil =>
    cases qs with
    | nil => rfl
    | cons q qs => cases hlength
  | cons p ps ih =>
    cases qs with
    | nil => cases hlength
    | cons q qs =>
      rw [List.map_cons, List.map_cons] at hlength
      obtain ⟨hpq, htail⟩ := List.cons.inj hlength
      have hempty : ps = [] ↔ qs = [] := by
        rw [← List.map_eq_nil_iff, htail, List.map_eq_nil_iff]
      by_cases hps : ps = []
      · obtain rfl := hps
        obtain rfl := hempty.mp rfl
        rw [show p = q from h]
      · rw [glue_cons _ _ hps, glue_cons _ _ (fun hq => hps (hempty.mpr hq)),
          List.append_assoc, List.append_assoc] at h
        obtain ⟨rfl, hrest⟩ := List.append_inj h hpq
        rw [ih htail (List.append_cancel_left hrest)]

/-- What may follow a piece: nothing, or the separator and then an item other than `c`. -/
inductive Follows (c : α) : List α → Prop where
  | nothing : Follows c []
  | separated {d : α} (xs : List α) (hd : d ≠ c) : Follows c (c :: c :: d :: xs)

/-- Of two pieces with the same text after them none is longer, if what follows may follow. -/
theorem eq_nil_of_follows {p u r : List α} (hp : ¬ [c, c] <:+: p ++ u) (hr : Follows c r)
    (hur : Follows c (u ++ r)) : u = [] := by
  cases u with
  | nil => rfl
  | cons a u =>
    cases u with
    | nil =>
      -- one item more: what follows would have to begin with the separator after `c`
      cases hur with
      | separated xs hd =>
        cases hr with
        | separated ys => exact absurd rfl hd
    | cons b u =>
      generalize hx : a :: b :: u ++ r = x at hur
      cases hur with
      | nothing => cases hx
      | separated xs hd =>
        obtain ⟨rfl, hx⟩ := List.cons.inj hx
        obtain ⟨rfl, -⟩ := List.cons.inj hx
        exact absurd ⟨p, u, by simp⟩ hp

theorem append_inj_of_follows {p q r s : List α} (hp : ¬ [c, c] <:+: p) (hq : ¬ [c, c] <:+: q)
    (hr : Follows c r) (hs : Follows c s) (h : p ++ r = q ++ s) : p = q ∧ r = s := by
  rcases List.append_eq_append_iff.mp h with ⟨u, rfl, rfl⟩ | ⟨u, rfl, rfl⟩
  · obtain rfl := eq_nil_of_follows hq hs hr
    simp
  · obtain rfl := eq_nil_of_follows hp hr hs
    simp

/-- The first `c` is where a piece without `c` ends. -/
theorem append_inj_of_not_mem {v w r s : List α} (hv : c ∉ v) (hw : c ∉ w)
    (h : v ++ c :: r = w ++ c :: s) : v = w ∧ r = s := by
  rcases List.append_eq_append_iff.mp h with ⟨u, rfl, hu⟩ | ⟨u, rfl, hu⟩
  · cases u with
    | nil => simpa using hu
    | cons a u =>
      obtain ⟨rfl, -⟩ := List.cons.inj hu
      exact absurd (by simp) hw
  · cases u with
    | nil => simpa using hu.symm
    | cons a u =>
      obtain ⟨rfl, -⟩ := List.cons.inj hu
      exact absurd (by simp) hv

/-- A sequence of pieces in which every other one, the second and the last but one among them, is
free of `c`. -/
def Alternating (c : α) : List (List α) → Prop
  | [] => False
  | [p] => ¬ [c, c] <:+: p
  | p :: w :: ps => ¬ [c, c] <:+: p ∧ c ∉ w ∧ w ≠ [] ∧ Alternating c ps

theorem Alternating.ne_nil {ps : List (List α)} (h : Alternating c ps) : ps ≠ [] := by
  rintro rfl
  exact h

/-- The text after the first piece. -/
theorem glue_cons_cons {p w : List α} {ps : List (List α)} (h : ps ≠ []) :
    glue [c, c] (p :: w :: ps) = p ++ (c :: c :: (w ++ c :: c :: glue [c, c] ps)) := by
  rw [glue_cons _ _ (by simp), glue_cons _ _ h]
  simp

theorem follows_word {w xs : List α} (hw : c ∉ w) (hne : w ≠ []) :
    Follows c (c :: c :: (w ++ xs)) := by
  cases w with
  | nil => exact absurd rfl hne
  | cons d w => exact .separated _ fun h => hw (by simp [h])

/-- Alternating sequences that are glued to the same are the same. -/
theorem glue_alternating_inj {ps qs : List (List α)} (hps : Alternating c ps)
    (hqs : Alternating c qs) (h : glue [c, c] ps = glue [c, c] qs) : ps = qs := by
  induction ps using Alternating.induct generalizing qs with
  | case1 => exact absurd hps id
  | case2 p =>
    rcases qs with _ | ⟨q, _ | ⟨w, qs⟩⟩
    · exact absurd hqs id
    · exact congrArg (fun x => [x]) h
    · obtain ⟨hq, hw, hne, hrest⟩ := hqs
      rw [glue_cons_cons hrest.ne_nil, glue, ← List.append_nil p] at h
      exact absurd (append_inj_of_follows hps hq .nothing (follows_word hw hne) h).2 (by simp)
  | case3 p v ps ih =>
    obtain ⟨hp, hv, hvne, hps⟩ := hps
    rw [glue_cons_cons hps.ne_nil] at h
    rcases qs with _ | ⟨q, _ | ⟨w, qs⟩⟩
    · exact absurd hqs id
    · rw [glue, ← List.append_nil q] at h
      exact absurd (append_inj_of_follows hp hqs (follows_word hv hvne) .nothing h).2 (by simp)
    · obtain ⟨hq, hw, hwne, hqs⟩ := hqs
      rw [glue_cons_cons hqs.ne_nil] at h
      obtain ⟨rfl, hrest⟩ :=
        append_inj_of_follows hp hq (follows_word hv hvne) (follows_word hw hwne) h
      have hwords : v ++ c :: c :: glue [c, c] ps = w ++ c :: c :: glue [c, c] qs := by
        simpa using hrest
      obtain ⟨rfl, hlater⟩ := append_inj_of_not_mem hv hw hwords
      rw [ih hps hqs (List.cons.inj hlater).2]

end CaseGrid.Text
