import CaseGrid.Proofs.Yaml.Cells

/-
  Pairs assigned to keys one after the other. A key that no key before it is alike gets an entry of
  its own, at the end; any other replaces what a key before it holds. So as many entries come out
  as pairs go in just if no two keys are alike, and then they are the pairs in order.

  Proved: `assignAll_of_unlike` and `unlike_of_length`, by induction on the keys with the entries so
  far left free.
-/

namespace CaseGrid.Yaml

open Builder (assign)

/-- No two keys are alike, of whatever kind they are. -/
def Unlike (keys : List Scalar) : Prop :=
  keys.Pairwise fun a b => a.alike b = false

section Assigning

variable {entries : List (Scalar × Nat)} {key : Scalar} {v : Nat}

theorem assign_of_unlike (h : ∀ e ∈ entries, e.1.alike key = false) :
    assign entries key v = entries ++ [(key, v)] := by
  induction entries with
  | nil => rfl
  | cons e entries ih =>
    obtain ⟨k, w⟩ := e
    have hk : k.alike key = false := h (k, w) List.mem_cons_self
    rw [assign, hk, if_neg Bool.false_ne_true, ih fun x hx => h x (List.mem_cons_of_mem _ hx),
      List.cons_append]

/-- Assigning to a key that is there already adds no entry. -/
theorem length_assign_of_alike (h : ∃ e ∈ entries, e.1.alike key = true) :
    (assign entries key v).length = entries.length := by
  induction entries with
  | nil => obtain ⟨_, hmem, _⟩ := h; cases hmem
  | cons e entries ih =>
    obtain ⟨k, w⟩ := e
    rw [assign]
    split
    · rfl
    · rename_i hk
      obtain ⟨x, hx, halike⟩ := h
      rcases List.mem_cons.mp hx with rfl | hx
      · exact absurd halike hk
      · rw [List.length_cons, ih ⟨x, hx, halike⟩, List.length_cons]

theorem length_assign_le : (assign entries key v).length ≤ entries.length + 1 := by
  by_cases h : ∃ e ∈ entries, e.1.alike key = true
  · rw [length_assign_of_alike h]
    omega
  · have hunlike : ∀ e ∈ entries, e.1.alike key = false := by simpa using h
    have hlength : (assign entries key v).length = entries.length + 1 := by
      rw [assign_of_unlike hunlike, List.length_append, List.length_singleton]
    exact Nat.le_of_eq hlength

theorem assignAll_cons {keys : List Scalar} {values : List Nat} :
    assignAll entries (key :: keys) (v :: values) = assignAll (assign entries key v) keys values :=
  rfl

theorem length_assignAll_le {keys : List Scalar} {values : List Nat} :
    (assignAll entries keys values).length ≤ entries.length + keys.length := by
  induction keys generalizing entries values with
  | nil => exact Nat.le_refl _
  | cons key keys ih =>
    cases values with
    | nil => exact Nat.le_add_right _ _
    | cons v values =>
      have hrest : (assignAll (assign entries key v) keys values).length ≤
          (assign entries key v).length + keys.length := ih
      have hfirst : (assign entries key v).length ≤ entries.length + 1 := length_assign_le
      rw [assignAll_cons, List.length_cons]
      omega

/-- Keys of which no two are alike, nor any one with a key that is there, get an entry each. -/
theorem assignAll_of_unlike {keys : List Scalar} {values : List Nat} (hkeys : Unlike keys)
    (hentries : ∀ e ∈ entries, ∀ k ∈ keys, e.1.alike k = false) :
    assignAll entries keys values = entries ++ keys.zip values := by
  induction keys generalizing entries values with
  | nil => exact (List.append_nil entries).symm
  | cons key keys ih =>
    obtain ⟨hkey, hrest⟩ := List.pairwise_cons.mp hkeys
    cases values with
    | nil => exact (List.append_nil entries).symm
    | cons v values =>
      have hnew : assign entries key v = entries ++ [(key, v)] :=
        assign_of_unlike fun e he => hentries e he key List.mem_cons_self
      rw [assignAll_cons, hnew, ih hrest, List.append_assoc]
      · rfl
      · intro e he k hk
        rcases List.mem_append.mp he with he | he
        · exact hentries e he k (List.mem_cons_of_mem key hk)
        · obtain rfl := List.mem_singleton.mp he
          exact hkey k hk

/-- If every pair added an entry, then no two keys are alike, nor any one with a key that was
there. -/
theorem unlike_of_length_add {keys : List Scalar} {values : List Nat}
    (hvalues : values.length = keys.length)
    (h : (assignAll entries keys values).length = entries.length + keys.length) :
    Unlike keys ∧ ∀ e ∈ entries, ∀ k ∈ keys, e.1.alike k = false := by
  induction keys generalizing entries values with
  | nil => exact ⟨.nil, fun _ _ => nofun⟩
  | cons key keys ih =>
    cases values with
    | nil => cases hvalues
    | cons v values =>
      rw [assignAll_cons, List.length_cons] at h
      have hlength : values.length = keys.length := Nat.succ.inj hvalues
      have hle : (assignAll (assign entries key v) keys values).length ≤
          (assign entries key v).length + keys.length := length_assignAll_le
      have hnew : ∀ e ∈ entries, e.1.alike key = false := by
        by_contra hsome
        have hsame : (assign entries key v).length = entries.length :=
          length_assign_of_alike (by simpa using hsome)
        omega
      rw [assign_of_unlike hnew] at h
      obtain ⟨hrest, hothers⟩ := ih hlength
        (by rw [h, List.length_append, List.length_singleton]; omega)
      refine ⟨List.pairwise_cons.mpr ⟨fun k hk => ?_, hrest⟩, fun e he k hk => ?_⟩
      · exact hothers (key, v) (List.mem_append_right _ List.mem_cons_self) k hk
      · rcases List.mem_cons.mp hk with rfl | hk
        · exact hnew e he
        · exact hothers e (List.mem_append_left _ he) k hk

/-- If there are as many entries as keys, then no two keys are alike. -/
theorem unlike_of_length {keys : List Scalar} {values : List Nat}
    (hvalues : values.length = keys.length)
    (h : (assignAll [] keys values).length = keys.length) : Unlike keys := by
  have hadd : (assignAll [] keys values).length =
      ([] : List (Scalar × Nat)).length + keys.length := by
    rw [h, List.length_nil, Nat.zero_add]
  exact (unlike_of_length_add hvalues hadd).1

end Assigning

end CaseGrid.Yaml
