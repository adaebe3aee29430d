import CaseGrid.Proofs.Value.Entries
import CaseGrid.Value.Items

/-
  Values that are texts, code points that are none among them. Such a value is a key as it is, it
  shows no number, and it is taken for another one only if it is the same; among different keys of
  this kind each is found with what it is assigned.
-/

namespace CaseGrid

namespace Value

/-- A text, or code points that are none. -/
def IsText (v : Value) : Prop :=
  ∃ ps, v.points? = some ps

theorem isText_text (s : String) : (Value.text s).IsText := ⟨_, rfl⟩

theorem IsText.isTooLong {v : Value} (h : v.IsText) : v.isTooLong = false := by
  obtain ⟨ps, hps⟩ := h
  unfold points? at hps
  split at hps <;> first | rfl | cases hps

theorem IsText.key {v : Value} (h : v.IsText) : v.key = .ok v := by
  obtain ⟨ps, hps⟩ := h
  unfold points? at hps
  split at hps <;> first | rfl | cases hps

/-- A value that can be a key is its own key. -/
theorem eq_of_key {v w : Value} (h : v.key = .ok w) : w = v := by
  rw [key] at h
  split at h
  · cases h
    rfl
  · cases h

/-- Whatever is taken for a text is that text. -/
theorem IsText.alike_iff {v w : Value} (hv : v.IsText) : v.alike w = true ↔ v = w := by
  obtain ⟨ps, hps⟩ := hv
  constructor
  · intro h
    unfold points? at hps
    split at hps
    · cases w with
      | scalar t =>
        cases t <;> simp_all [Value.alike, Scalar.alike, Scalar.same, Scalar.whole?]
      | _ => simp [Value.alike] at h
    · cases w with
      | scalar t =>
        cases t <;> simp_all [Value.alike, Scalar.alike, Scalar.same, Scalar.whole?]
      | _ => simp [Value.alike] at h
    · cases hps
  · rintro rfl
    exact alike_self_of_points? hps

theorem IsText.alike_eq_false {v w : Value} (hv : v.IsText) (h : v ≠ w) : v.alike w = false := by
  rw [← Bool.not_eq_true, hv.alike_iff]
  exact h

end Value

/-- What a key is assigned, among keys that are different texts. -/
theorem Entries.get?_eq_some_iff {α : Type} {es : Entries α} (htexts : ∀ e ∈ es, e.1.IsText)
    (hdistinct : es.keys.Nodup) {key : Value} {a : α} :
    es.get? key = some a ↔ (key, a) ∈ es := by
  induction es with
  | nil => simp [get?]
  | cons e es ih =>
    obtain ⟨k, b⟩ := e
    rw [keys, List.map_cons, List.nodup_cons] at hdistinct
    have hk : k.alike key = true ↔ k = key := (htexts (k, b) List.mem_cons_self).alike_iff
    rw [get?, List.mem_cons, Prod.mk.injEq]
    by_cases heq : k = key
    · subst heq
      have hother : (k, a) ∉ es := fun h =>
        hdistinct.1 (List.mem_map.mpr ⟨(k, a), h, rfl⟩)
      rw [if_pos (hk.mpr rfl), or_iff_left hother, Option.some.injEq, and_iff_right rfl, eq_comm]
    · rw [if_neg (mt hk.mp heq), ih (fun e he => htexts e (.tail _ he)) hdistinct.2,
        or_iff_right fun h => heq h.1.symm]

end CaseGrid
