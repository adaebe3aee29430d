import CaseGrid.Expansion
import CaseGrid.Proofs.Validation.Rejection
import Mathlib

/-
  How an expansion ends: with the cases of a scenario that keeps the rules, or with an error for
  the first broken rule at its place. Only an error that would have to show a whole number with
  more digits than are written ends as a fault instead.

  Proved: the three ends as equations (`expand_of_kept`, `expand_of_told`, `expand_of_untold`), and
  from them that each end comes about under its condition alone. A grid of `100 ^ 2150` cases,
  far more than its limit allows, meets the last one.
-/

namespace CaseGrid.Expansion

open CaseGrid.Text (Points isIdentifier isIdentifierChars isIdentifierRest isReserved reservedWords
  occursIn_iff)
open CaseGrid.Validation

/-! ## The three ends -/

theorem accept_of_kept {config : Config} {s : Scenario} {vs : List Variable}
    (h : Kept config s vs) (t : Trace) : accept config s t = (.ok vs, t) := by
  rw [accept, checkScenario_eq_ok_iff.mpr h]
  rfl

/-- The error of a rejection, and the line of the log that goes with it. -/
theorem accept_of_told {config : Config} {s : Scenario} {r : Rejection} {e : SpecificationError}
    (h : Rejected config s r) (he : r.error = .ok e) (t : Trace) :
    accept config s t = (.error (.specification e),
      (Session.log Log.error logger ("Invalid scenario definition: " ++ e.message) t).2) := by
  rw [accept, checkScenario_eq_error_iff.mpr h]
  show (Session.ofFault r.error >>= _) t = _
  rw [he]
  rfl

theorem accept_of_untold {config : Config} {s : Scenario} {r : Rejection} {f : Fault}
    (h : Rejected config s r) (he : r.error = .error f) (t : Trace) :
    accept config s t = (.error (.fault f), t) := by
  rw [accept, checkScenario_eq_error_iff.mpr h]
  show (Session.ofFault r.error >>= _) t = _
  rw [he]
  rfl

theorem expand_of_kept {config : Config} {s : Scenario} {vs : List Variable}
    (h : Kept config s vs) (t : Trace) :
    expand config s t = (.ok (casesOf s vs),
      (Session.log Log.debug logger (summaryLine s vs.length (casesOf s vs).length) t).2) := by
  rw [expand, Session.bind_run_ok (accept_of_kept h t)]
  rfl

theorem expand_of_told {config : Config} {s : Scenario} {r : Rejection} {e : SpecificationError}
    (h : Rejected config s r) (he : r.error = .ok e) (t : Trace) :
    expand config s t = (.error (.specification e),
      (Session.log Log.error logger ("Invalid scenario definition: " ++ e.message) t).2) :=
  Session.bind_run_error (accept_of_told h he t)

theorem expand_of_untold {config : Config} {s : Scenario} {r : Rejection} {f : Fault}
    (h : Rejected config s r) (he : r.error = .error f) (t : Trace) :
    expand config s t = (.error (.fault f), t) :=
  Session.bind_run_error (accept_of_untold h he t)

theorem error_of_told {r : Rejection} (h : r.isTooLong = false) :
    r.error = .ok (.make r.violation.message r.scenario r.variableName none) := by
  rw [Rejection.error, h]
  rfl

theorem error_of_untold {r : Rejection} (h : r.isTooLong = true) :
    r.error = .error .numberTooLong := by
  rw [Rejection.error, h]
  rfl

/-- Every expansion comes to one of the three ends. -/
theorem expand_ending (config : Config) (s : Scenario) (t : Trace) :
    (∃ vs, Kept config s vs ∧ (expand config s t).1 = .ok (casesOf s vs)) ∨
    (∃ r, Rejected config s r ∧ r.isTooLong = false ∧ (expand config s t).1 =
      .error (.specification (.make r.violation.message r.scenario r.variableName none))) ∨
    (∃ r, Rejected config s r ∧ r.isTooLong = true ∧
      (expand config s t).1 = .error (.fault .numberTooLong)) := by
  by_cases hkept : ∃ vs, Kept config s vs
  · obtain ⟨vs, hvs⟩ := hkept
    exact .inl ⟨vs, hvs, by rw [expand_of_kept hvs]⟩
  · obtain ⟨r, hr⟩ := not_kept_iff.mp hkept
    match hlong : r.isTooLong with
    | false => exact .inr (.inl ⟨r, hr, hlong, by rw [expand_of_told hr (error_of_told hlong)]⟩)
    | true =>
      exact .inr (.inr ⟨r, hr, hlong, by rw [expand_of_untold hr (error_of_untold hlong)]⟩)

/-- An expansion with cases has those of variables that keep the rules. -/
theorem kept_of_expand {config : Config} {s : Scenario} {cases : List Case} {t t' : Trace}
    (h : expand config s t = (.ok cases, t')) :
    ∃ vs, Kept config s vs ∧ cases = casesOf s vs := by
  rcases expand_ending config s t with ⟨vs, hvs, hrun⟩ | ⟨r, -, -, hrun⟩ | ⟨r, -, -, hrun⟩
  · rw [h] at hrun
    cases hrun
    exact ⟨vs, hvs, rfl⟩
  · rw [h] at hrun
    cases hrun
  · rw [h] at hrun
    cases hrun

/-- An expansion with a specification error has that of the first broken rule. -/
theorem rejected_of_expand {config : Config} {s : Scenario} {e : SpecificationError}
    {t t' : Trace} (h : expand config s t = (.error (.specification e), t')) :
    ∃ r, Rejected config s r ∧ r.isTooLong = false ∧
      e = .make r.violation.message r.scenario r.variableName none := by
  rcases expand_ending config s t with ⟨vs, -, hrun⟩ | ⟨r, hr, hlong, hrun⟩ | ⟨r, -, -, hrun⟩
  · rw [h] at hrun
    cases hrun
  · rw [h] at hrun
    cases hrun
    exact ⟨r, hr, hlong, rfl⟩
  · rw [h] at hrun
    cases hrun

/-- An expansion that ends with the fault has a first broken rule that cannot be told. -/
theorem untold_of_expand {config : Config} {s : Scenario} {t t' : Trace}
    (h : expand config s t = (.error (.fault .numberTooLong), t')) :
    ∃ r, Rejected config s r ∧ r.isTooLong = true := by
  rcases expand_ending config s t with ⟨vs, -, hrun⟩ | ⟨r, -, -, hrun⟩ | ⟨r, hr, hlong, -⟩
  · rw [h] at hrun
    cases hrun
  · rw [h] at hrun
    cases hrun
  · exact ⟨r, hr, hlong⟩

/-! ## Grids of numbered variables -/

/-- The name of the variable at a position. -/
def axisName (i : Nat) : Value := .text ("v" ++ toString i)

/-- Some variables with `k` candidates each. -/
def axes (n k : Nat) : List Variable :=
  (List.range n).map fun i => .ofRange (axisName i) k

/-- A scenario of `n` variables with `k` candidates each. -/
def gridOf (n k : Nat) : Scenario where
  title := .text "t"
  items := (axes n k).map .declared
  compute := .constant .null
  check := .constant (.bool true)
  resultName := defaultResultName

theorem axisName_inj {i j : Nat} (h : axisName i = axisName j) : i = j := by
  simp only [axisName, Value.scalar.injEq, Scalar.text.injEq, String.append_right_inj] at h
  exact Nat.repr_injective h

theorem isIdentifierRest_of_isDigit {c : Char} (h : c.isDigit = true) :
    isIdentifierRest c = true := by
  have hc : c.toNat < 0x80 := by
    simp only [Char.isDigit, Bool.and_eq_true, decide_eq_true_eq] at h
    have := UInt32.le_iff_toNat_le.mp h.2
    have h9 : ('9' : Char).val.toNat = 57 := rfl
    have : c.toNat ≤ 57 := h9 ▸ this
    omega
  simp [isIdentifierRest, hc, Char.isAlphanum, h]

theorem axisName_kept (i : Nat) : NameKept [defaultResultName] (axisName i) := by
  have hlist : ("v" ++ toString i).toList = 'v' :: Nat.toDigits 10 i := by
    simp [String.toList_append, Nat.toString_eq_repr, Nat.repr]
  have hword (s : String) (h : s ∈ reservedWords) : s.toList.head? ≠ some 'v' := by
    revert s
    decide
  refine ⟨⟨_, rfl, ?_, ?_⟩, ?_⟩
  · rw [isIdentifier, hlist, isIdentifierChars, Bool.and_eq_true, List.all_eq_true]
    exact ⟨by decide, fun c hc =>
      isIdentifierRest_of_isDigit (Nat.isDigit_of_mem_toDigits (by decide) (by decide) hc)⟩
  · by_contra h
    have hmem : "v" ++ toString i ∈ reservedWords := by simpa [isReserved] using h
    exact hword _ hmem (by rw [hlist]; rfl)
  · intro h
    have heq : "v" ++ toString i = "result" := by
      simpa [axisName, defaultResultName] using h
    have hhead : ("v" ++ toString i).toList.head? = some 'v' := by rw [hlist]; rfl
    rw [heq] at hhead
    revert hhead
    decide

theorem ofRange_values (name : Value) (k : Nat) :
    (Variable.ofRange name k).values =
      (List.range k).map fun i => ⟨.text (Nat.repr i), .int (Int.ofNat i)⟩ := by
  rw [Variable.ofRange, Variable.ofValues, List.map_map]
  rfl

theorem isLabel_repr (i : Nat) : IsLabel "::" (.text (Nat.repr i)) := by
  have hlist : (Nat.repr i).toList = Nat.toDigits 10 i := by simp [Nat.repr]
  refine ⟨.ofString (Nat.repr i), rfl, ?_, ?_⟩
  · simp [Points.ofString_eq_nil, ← String.toList_inj, hlist]
  · intro h
    have hcolon : ':'.toNat ∈ Points.ofString (Nat.repr i) := h.subset (by decide)
    rw [Points.ofString, hlist] at hcolon
    obtain ⟨c, hc, hcc⟩ := List.mem_map.mp hcolon
    have hdigit := Nat.isDigit_of_mem_toDigits (by decide) (by decide) hc
    obtain rfl : c = ':' := Char.toNat_inj.mp hcc
    exact absurd hdigit (by decide)

theorem ofRange_choices_kept (name : Value) (k : Nat) :
    ChoicesKept "::" (Variable.ofRange name k).values := by
  rw [ofRange_values]
  refine ⟨?_, ?_⟩
  · intro c hc
    obtain ⟨i, -, rfl⟩ := List.mem_map.mp hc
    exact isLabel_repr i
  · rw [List.map_map]
    refine List.nodup_range.map fun i j h => Nat.repr_injective ?_
    simpa using h

theorem axes_kept (n k : Nat) (hk : 0 < k) :
    VariablesKept "::" [defaultResultName] (axes n k) := by
  refine ⟨?_, ?_⟩
  · intro v hv
    obtain ⟨i, -, rfl⟩ := List.mem_map.mp hv
    refine ⟨axisName_kept i, ?_, ofRange_choices_kept _ k⟩
    rw [ofRange_values]
    simp
    omega
  · rw [axes, List.map_map]
    exact List.nodup_range.map fun i j h => axisName_inj h

theorem gridSize_axes (n k : Nat) : gridSize (axes n k) = k ^ n := by
  simp [gridSize, axes, Function.comp_def, ofRange_values]

theorem gridOf_frame (config : Config) (n k : Nat) (h : config.separator = "::") :
    FrameKept config (gridOf n k) := by
  refine ⟨rfl, rfl, ⟨"result", rfl, rfl⟩, .ofString "t", rfl, by decide, ?_⟩
  rw [h]
  intro hin
  exact absurd (occursIn_iff.mpr hin) (by decide)

theorem axes_ne_nil {n k : Nat} (hn : 0 < n) : axes n k ≠ [] := by
  rw [axes, ne_eq, List.map_eq_nil_iff, List.range_eq_nil]
  omega

theorem gridOf_kept {config : Config} {n k : Nat} (hsep : config.separator = "::") (hn : 0 < n)
    (hk : 0 < k) (h : ∀ limit ∈ config.maxCases, ((k ^ n : Nat) : Int) ≤ limit) :
    Kept config (gridOf n k) (axes n k) := by
  refine ⟨gridOf_frame config n k hsep, rfl, axes_ne_nil hn, ?_, ?_⟩
  · rw [hsep]
    exact axes_kept n k hk
  · rw [gridSize_axes]
    exact h

/-- A grid of more cases than the limit allows is rejected for their number. -/
theorem gridOf_rejected {n k : Nat} {limit : Int} (hn : 0 < n) (hk : 0 < k)
    (h : limit < (k ^ n : Nat)) :
    Rejected { maxCases := some limit } (gridOf n k)
      ⟨.tooManyCases (k ^ n) limit, .text "t", .null⟩ := by
  have hframe := gridOf_frame { maxCases := some limit } n k rfl
  rw [← gridSize_axes] at h ⊢
  exact .listed rfl rfl hframe.result
    (.tooMany hframe.title rfl (axes_ne_nil hn) (axes_kept n k hk) rfl h)

/-- The error for a grid of `100 ^ 2150` cases would show a number that is too long. -/
theorem gridOf_too_long :
    ∃ r, Rejected { maxCases := some 1000 } (gridOf 2150 100) r ∧ r.isTooLong = true := by
  have hlong : Number.isTooLong ((100 ^ 2150 : Nat) : Int) = true := by decide +kernel
  refine ⟨_, gridOf_rejected (by decide) (by decide) (by decide +kernel), ?_⟩
  simp only [Rejection.isTooLong, Violation.isTooLong, hlong, Bool.true_or]

/-! ## When each end comes about -/

/-- The first item that breaks a rule is the place of the rejection. -/
theorem rejected_item {config : Config} {s : Scenario} {before : List Variable} {item : Item}
    {after : List Item} (hframe : FrameKept config s)
    (hitems : s.items = before.map .declared ++ item :: after)
    (hkept : VariablesKept config.separator [s.resultName] before)
    (hitem : ¬ ∃ v, item = .declared v ∧ VariableKept config.separator [s.resultName] v ∧
      v.name ∉ before.map Variable.name) :
    ∃ w, Rejected config s ⟨w, s.title, item.name⟩ := by
  have hbroken : ∃ w, ItemBroken config.separator [s.resultName]
      (before.map Variable.name).reverse item w := by
    rw [exists_itemBroken_iff]
    simpa using hitem
  obtain ⟨w, hw⟩ := hbroken
  exact ⟨w, .listed hframe.compute_callable hframe.check_callable hframe.result
    (.item hframe.title hitems hkept hw)⟩

/--
An expansion gives cases just for a scenario that keeps the rules. In every other case it ends
with a specification error, unless the error for the first broken rule shows a whole number that
is too long to be written; and where an item is the first to break a rule, the error names the
title and that item.
-/
theorem expand_ends (config : Config) (s : Scenario) (t : Trace) :
    ((∃ cases t', expand config s t = (.ok cases, t')) ↔ ∃ vs, Kept config s vs) ∧
    ((∃ e t', expand config s t = (.error (.specification e), t')) ↔
      (¬ ∃ vs, Kept config s vs) ∧ ¬ ∃ r, Rejected config s r ∧ r.isTooLong = true) ∧
    ((∃ t', expand config s t = (.error (.fault .numberTooLong), t')) ↔
      ∃ r, Rejected config s r ∧ r.isTooLong = true) ∧
    ∀ before item after e t', FrameKept config s →
      s.items = before.map .declared ++ item :: after →
      VariablesKept config.separator [s.resultName] before →
      (¬ ∃ v, item = .declared v ∧ VariableKept config.separator [s.resultName] v ∧
        v.name ∉ before.map Variable.name) →
      expand config s t = (.error (.specification e), t') →
      e.scenario = s.title ∧ e.variableName = item.name := by
  have htold (r : Rejection) (hr : Rejected config s r) :
      r.isTooLong = false ↔ ¬ ∃ q, Rejected config s q ∧ q.isTooLong = true := by
    constructor
    · rintro hlong ⟨q, hq, hlong'⟩
      rw [rejected_unique hq hr, hlong] at hlong'
      cases hlong'
    · intro hno
      by_contra hlong
      exact hno ⟨r, hr, by simpa using hlong⟩
  refine ⟨⟨?_, ?_⟩, ⟨?_, ?_⟩, ⟨?_, ?_⟩, ?_⟩
  · rintro ⟨cases, t', h⟩
    obtain ⟨vs, hvs, -⟩ := kept_of_expand h
    exact ⟨vs, hvs⟩
  · rintro ⟨vs, hvs⟩
    exact ⟨_, _, expand_of_kept hvs t⟩
  · rintro ⟨e, t', h⟩
    obtain ⟨r, hr, hlong, -⟩ := rejected_of_expand h
    exact ⟨not_kept_iff.mpr ⟨r, hr⟩, (htold r hr).mp hlong⟩
  · rintro ⟨hkept, hno⟩
    obtain ⟨r, hr⟩ := not_kept_iff.mp hkept
    exact ⟨_, _, expand_of_told hr (error_of_told ((htold r hr).mpr hno)) t⟩
  · rintro ⟨t', h⟩
    exact untold_of_expand h
  · rintro ⟨r, hr, hlong⟩
    exact ⟨_, expand_of_untold hr (error_of_untold hlong) t⟩
  · intro before item after e t' hframe hitems hbefore hitem h
    obtain ⟨w, hw⟩ := rejected_item hframe hitems hbefore hitem
    obtain ⟨r, hr, -, rfl⟩ := rejected_of_expand h
    obtain rfl := rejected_unique hr hw
    exact ⟨rfl, rfl⟩

/-- A scenario with the same variable twice. -/
def repeatedGrid : Scenario :=
  { gridOf 1 2 with items := (axes 1 2 ++ axes 1 2).map .declared }

/-- The error for the second of two equal variables names it. -/
theorem expand_repeatedGrid :
    ∃ e t', expand {} repeatedGrid default = (.error (.specification e), t') ∧
      e.scenario = .text "t" ∧ e.variableName = axisName 0 := by
  have hframe : FrameKept {} repeatedGrid := by
    obtain ⟨hcompute, hcheck, hresult, htitle⟩ := gridOf_frame {} 1 2 rfl
    exact ⟨hcompute, hcheck, hresult, htitle⟩
  have hrejected : Rejected {} repeatedGrid ⟨.repeatedVariable, .text "t", axisName 0⟩ :=
    checkScenario_eq_error_iff.mp rfl
  have hrun := expand_of_told hrejected (error_of_told rfl) default
  refine ⟨_, _, hrun, (expand_ends {} repeatedGrid default).2.2.2 (axes 1 2)
    (.declared (.ofRange (axisName 0) 2)) [] _ _ hframe rfl (axes_kept 1 2 (by decide)) ?_ hrun⟩
  rintro ⟨v, ⟨⟩, -, hnew⟩
  exact hnew (List.mem_map.mpr ⟨.ofRange (axisName 0) 2, by simp [axes], rfl⟩)

/-- A grid that breaks the rule on the number of cases, although no error tells of it. -/
theorem gridOf_untold :
    (¬ ∃ vs, Kept { maxCases := some 1000 } (gridOf 2150 100) vs) ∧
      (expand { maxCases := some 1000 } (gridOf 2150 100) default).1 =
        .error (.fault .numberTooLong) := by
  obtain ⟨r, hrejected, hlong⟩ := gridOf_too_long
  refine ⟨not_kept_iff.mpr ⟨r, hrejected⟩, ?_⟩
  rw [expand_of_untold hrejected (error_of_untold hlong)]

end CaseGrid.Expansion
