import CaseGrid.Value.Equality
import Mathlib.Data.List.Basic

/-
  Assignments whose keys are texts. Two texts count as one key only if they are the same, so that
  an assignment to a new key comes last and leaves the others alone, and each key is found again.
-/

namespace CaseGrid

namespace Value

/-- A text is taken for another value only if it is that value. -/
theorem alike_text_iff {v : Value} {s : String} : v.alike (.text s) = true ↔ v = .text s := by
  cases v with
  | scalar t => cases t <;> simp [Value.alike, Scalar.alike, Scalar.same, Scalar.whole?]
  | _ => simp [Value.alike]

/-- A text is taken for itself, also where its code points are none. -/
theorem alike_self_of_points? {v : Value} {ps : Text.Points} (h : v.points? = some ps) :
    v.alike v = true := by
  unfold points? at h
  split at h
  · exact alike_text_iff.mpr rfl
  · simp [Value.alike, Scalar.alike, Scalar.same]
  · cases h

end Value

namespace Entries

variable {α : Type}

theorem get?_eq_none_iff {es : Entries α} {key : Value} :
    es.get? key = none ↔ ∀ e ∈ es, e.1.alike key = false := by
  induction es with
  | nil => simp [get?]
  | cons e es ih =>
    rw [get?, List.forall_mem_cons]
    cases h : e.1.alike key with
    | true => simp
    | false => simpa using ih

/-- A key that is not there yet is assigned to at the end. -/
theorem put_of_new {es : Entries α} {s : String} (a : α) (h : .text s ∉ es.keys) :
    es.put (.text s) a = es ++ [(.text s, a)] := by
  induction es with
  | nil => rfl
  | cons e es ih =>
    rw [keys, List.map_cons, List.mem_cons, not_or] at h
    have hne : ¬ e.1.alike (.text s) = true := fun halike =>
      h.1 (Value.alike_text_iff.mp halike).symm
    rw [put, if_neg hne, ih h.2, List.cons_append]

/-- Among different keys each is found with what it is assigned. -/
theorem get?_of_mem {es : Entries α} {s : String} {a : α} (hdistinct : es.keys.Nodup)
    (h : (.text s, a) ∈ es) : es.get? (.text s) = some a := by
  induction es with
  | nil => cases h
  | cons e es ih =>
    rw [keys, List.map_cons, List.nodup_cons] at hdistinct
    rw [get?]
    rcases List.mem_cons.mp h with rfl | hmem
    · rw [if_pos (Value.alike_text_iff.mpr rfl)]
    · have hkey : Value.text s ∈ es.map (·.1) := List.mem_map_of_mem hmem
      have hne : ¬ e.1.alike (.text s) = true := fun halike =>
        hdistinct.1 (Value.alike_text_iff.mp halike ▸ hkey)
      rw [if_neg hne, ih hdistinct.2 hmem]

end Entries

end CaseGrid
