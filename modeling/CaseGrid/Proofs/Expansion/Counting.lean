import CaseGrid.Proofs.Expansion.Product

/-
  The number of cases and the length of a scenario of variables. The number is the product of the
  numbers of candidates, and none without a variable. It is that of the cases of an expansion, but
  it has no bound, and a length has one: a scenario has the number for its length up to the
  greatest length there is, and no length beyond that.
-/

namespace CaseGrid.Expansion

open CaseGrid.Validation

variable {s : Scenario} {vs : List Variable}

/-- The product of the numbers of candidates, from a factor on. -/
theorem foldlM_valueCount (vs : List Variable) (n : Nat) :
    (vs.map Item.declared).foldlM (fun n item => item.valueCount.map (n * ·)) n =
      (.ok (n * gridSize vs) : Except Fault Nat) := by
  induction vs generalizing n with
  | nil => rw [show gridSize [] = 1 from rfl, Nat.mul_one]; rfl
  | cons v vs ih =>
    rw [gridSize_cons, ← Nat.mul_assoc]
    exact ih (n * v.values.length)

/-- The count of a scenario is the one that the rules compare with their limit. -/
theorem size_of_declared (h : s.items = vs.map .declared) : s.size = .ok (combinations vs) := by
  rw [Scenario.size, Scenario.combinationCount, h, List.isEmpty_map]
  cases vs with
  | nil => rfl
  | cons v vs =>
    rw [combinations_eq (by simp), if_neg (by simp), ← Nat.one_mul (gridSize (v :: vs))]
    exact foldlM_valueCount (v :: vs) 1

theorem length_of_declared (h : s.items = vs.map .declared) :
    s.length = if combinations vs ≤ Value.greatestLength then .ok (combinations vs)
      else .error .countTooLarge := by
  rw [Scenario.length, size_of_declared h]

theorem combinations_eq_ite (vs : List Variable) :
    combinations vs = if vs = [] then 0 else (vs.map fun v => v.values.length).prod := by
  split
  · subst vs
    rfl
  · exact combinations_eq ‹_›

/-- An expansion with cases is one of variables, with as many cases as are counted. -/
theorem length_of_expand {config : Config} {cases : List Case} {t t' : Trace}
    (hrun : expand config s t = (.ok cases, t')) (h : s.items = vs.map .declared) :
    cases.length = combinations vs := by
  obtain ⟨ws, hkept, rfl⟩ := kept_of_expand hrun
  obtain rfl : vs = ws :=
    List.map_injective_iff.mpr (fun v w h => Item.declared.inj h) (h.symm.trans hkept.items)
  rw [casesOf, List.length_map, length_combine, combinations_eq hkept.ne_nil]

/--
The number of cases of a scenario of variables is the product of the numbers of candidates, none
without a variable, and every expansion with cases has as many. The length is this number as long as
it is below `2 ^ 63`, and from there on there is none.
-/
theorem size_and_length (s : Scenario) (vs : List Variable) (h : s.items = vs.map .declared) :
    ∃ n, n = (if vs = [] then 0 else (vs.map fun v => v.values.length).prod) ∧ s.size = .ok n ∧
      (n < 2 ^ 63 → s.length = .ok n) ∧ (2 ^ 63 ≤ n → s.length = .error .countTooLarge) ∧
      ∀ config cases t t', expand config s t = (.ok cases, t') → cases.length = n := by
  refine ⟨combinations vs, combinations_eq_ite vs, size_of_declared h, ?_, ?_,
    fun config cases t t' hrun => length_of_expand hrun h⟩
  · intro hn
    have hle : combinations vs ≤ Value.greatestLength := Nat.le_sub_one_of_lt hn
    rw [length_of_declared h, if_pos hle]
  · intro hn
    have hlt : ¬ combinations vs ≤ Value.greatestLength :=
      Nat.not_le_of_lt (Nat.sub_one_lt_of_le (Nat.pow_pos (by decide)) hn)
    rw [length_of_declared h, if_neg hlt]

/-- Two variables with three candidates each have nine cases. -/
theorem size_and_length_gridOf :
    (gridOf 2 3).size = .ok 9 ∧ (gridOf 2 3).length = .ok 9 ∧
      ∃ cases t', expand {} (gridOf 2 3) default = (.ok cases, t') ∧ cases.length = 9 := by
  obtain ⟨n, hn, hsize, hlength, -, hexpand⟩ := size_and_length (gridOf 2 3) (axes 2 3) rfl
  obtain rfl : n = 9 := hn
  have hrun := expand_of_kept (gridOf_kept rfl (by decide) (by decide) (by simp) :
    Kept {} (gridOf 2 3) (axes 2 3)) default
  exact ⟨hsize, hlength (by decide), _, _, hrun, hexpand _ _ _ _ hrun⟩

/-- Sixty-three variables with two candidates each have a number of cases, but no length. -/
theorem no_length_gridOf :
    (gridOf 63 2).size = .ok (2 ^ 63) ∧ (gridOf 63 2).length = .error .countTooLarge := by
  have hcount : combinations (axes 63 2) = 2 ^ 63 := by
    rw [combinations_eq (axes_ne_nil (by decide)), gridSize_axes]
  have hlimit : ¬ 2 ^ 63 ≤ Value.greatestLength := by decide
  rw [size_of_declared (s := gridOf 63 2) rfl, length_of_declared (s := gridOf 63 2) rfl, hcount,
    if_neg hlimit]
  exact ⟨rfl, rfl⟩

end CaseGrid.Expansion
