import CaseGrid.Proofs.Except
import CaseGrid.Proofs.Value.Entries
import CaseGrid.Validation
import Mathlib.Algebra.Ring.Nat

/-
  The rules for scenarios, said of the scenario as it was declared and not of the checks.

  A label is a text that is not empty and does not hold the separator. A variable keeps the
  rules when its name is an identifier that is neither a reserved word nor a reserved name, and
  when it has candidates whose names are labels and pairwise different. A scenario keeps them when
  its steps can be called, its result name is an identifier, its title is a label, and it lists
  variables only, at least one of them, with pairwise different names and no more combinations
  than the limit.

  Proved: each check passes exactly when its rule is kept, for whole scenarios
  `checkScenario_eq_ok_iff`. The invariant of the two loops is that `seen` holds the names of what
  was passed before, so that the checks of the rest compare with those as well.
-/

namespace CaseGrid.Validation

open CaseGrid.Text (Points isIdentifier isReserved occursIn_iff)

/-! ## The rules -/

/-- A text that is not empty and does not hold the separator. -/
def IsLabel (separator : String) (v : Value) : Prop :=
  ∃ ps, v.points? = some ps ∧ ps ≠ [] ∧ ¬ Points.ofString separator <:+: ps

/-- A name that a variable may have where some names are reserved. -/
structure NameKept (reserved : List Value) (name : Value) : Prop where
  identifier : ∃ s, name = .text s ∧ isIdentifier s = true ∧ isReserved s = false
  not_reserved : name ∉ reserved

/-- Candidates whose names are labels and pairwise different. -/
structure ChoicesKept (separator : String) (cs : List Choice) : Prop where
  labels : ∀ c ∈ cs, IsLabel separator c.name
  distinct : (cs.map Choice.name).Nodup

/-- A variable that keeps all rules but the one on the names of the others. -/
structure VariableKept (separator : String) (reserved : List Value) (v : Variable) : Prop where
  name : NameKept reserved v.name
  values_ne_nil : v.values ≠ []
  choices : ChoicesKept separator v.values

/-- Variables that keep all rules but the one on the number of combinations. -/
structure VariablesKept (separator : String) (reserved : List Value) (vs : List Variable) :
    Prop where
  each : ∀ v ∈ vs, VariableKept separator reserved v
  distinct : (vs.map Variable.name).Nodup

/-- The number of combinations of some variables. -/
def gridSize (vs : List Variable) : Nat :=
  (vs.map fun v => v.values.length).prod

/-- The rules on what stands around the variables. -/
structure FrameKept (config : Config) (s : Scenario) : Prop where
  compute_callable : s.compute.isCallable = true
  check_callable : s.check.isCallable = true
  result : ∃ r, s.resultName = .text r ∧ isIdentifier r = true
  title : IsLabel config.separator s.title

/-- A scenario that keeps all rules, and its variables. -/
structure Kept (config : Config) (s : Scenario) (vs : List Variable) : Prop where
  frame : FrameKept config s
  items : s.items = vs.map .declared
  ne_nil : vs ≠ []
  declared : VariablesKept config.separator [s.resultName] vs
  within : ∀ limit ∈ config.maxCases, (gridSize vs : Int) ≤ limit

/-! ## Opening the checks -/

theorem readLabel_eq_ok_iff {what separator : String} {v : Value} {ps : Points} :
    readLabel what separator v = .ok ps ↔
      v.points? = some ps ∧ ps ≠ [] ∧ ¬ Points.ofString separator <:+: ps := by
  unfold readLabel
  match v.points? with
  | none => simp
  | some qs =>
    simp only [List.isEmpty_iff, occursIn_iff, Option.some.injEq]
    split
    · rename_i h
      simp only [reduceCtorEq, false_iff]
      rintro ⟨rfl, hne, -⟩
      exact hne h
    · split
      · rename_i hocc
        simp only [reduceCtorEq, false_iff]
        rintro ⟨rfl, -, hn⟩
        exact hn hocc
      · rename_i hne hocc
        constructor
        · intro h
          cases h
          exact ⟨rfl, hne, hocc⟩
        · rintro ⟨rfl, -, -⟩
          rfl

theorem choicesKept_nil {separator : String} : ChoicesKept separator [] :=
  ⟨by simp, by simp⟩

theorem choicesKept_cons {separator : String} {c : Choice} {cs : List Choice} :
    ChoicesKept separator (c :: cs) ↔
      IsLabel separator c.name ∧ (∀ d ∈ cs, d.name ≠ c.name) ∧ ChoicesKept separator cs := by
  constructor
  · rintro ⟨hl, hd⟩
    rw [List.map_cons, List.nodup_cons] at hd
    refine ⟨hl c (by simp), ?_, fun d hd' => hl d (by simp [hd']), hd.2⟩
    intro d hd' h
    exact hd.1 (h ▸ List.mem_map_of_mem hd')
  · rintro ⟨hl, hne, hcs⟩
    refine ⟨?_, ?_⟩
    · intro d hd
      rcases List.mem_cons.mp hd with rfl | hd
      · exact hl
      · exact hcs.labels d hd
    · rw [List.map_cons, List.nodup_cons]
      refine ⟨?_, hcs.distinct⟩
      intro h
      obtain ⟨d, hd, hdc⟩ := List.mem_map.mp h
      exact hne d hd hdc

/-- No candidate has one of the names that were seen before. -/
def ChoicesNew (seen : List Points) (cs : List Choice) : Prop :=
  ∀ c ∈ cs, ∀ ps ∈ seen, c.name.points? ≠ some ps

theorem choicesNew_nil {cs : List Choice} : ChoicesNew [] cs := by
  simp [ChoicesNew]

/-- Once a candidate was checked, its name is one of those that were seen. -/
theorem choicesNew_cons_iff {seen : List Points} {c : Choice} {ps : Points} {cs : List Choice}
    (hc : c.name.points? = some ps) :
    (∀ d ∈ cs, d.name ≠ c.name) ∧ ChoicesNew seen (c :: cs) ↔
      ps ∉ seen ∧ ChoicesNew (ps :: seen) cs := by
  constructor
  · rintro ⟨hdiff, hnew⟩
    refine ⟨fun hps => hnew c (by simp) ps hps hc, ?_⟩
    intro d hd qs hqs hdq
    rcases List.mem_cons.mp hqs with rfl | hqs
    · exact hdiff d hd (Value.eq_of_points?_eq hdq hc)
    · exact hnew d (by simp [hd]) qs hqs hdq
  · rintro ⟨hps, hnew⟩
    refine ⟨fun d hd hdc => hnew d hd ps (by simp) (hdc ▸ hc), ?_⟩
    intro d hd qs hqs hdq
    rcases List.mem_cons.mp hd with rfl | hd
    · rw [hc] at hdq
      cases hdq
      exact hps hqs
    · exact hnew d hd qs (by simp [hqs]) hdq

/-- The check of candidates compares each name with those in `seen` and with those before it. -/
theorem checkChoices_eq_ok_iff {separator : String} {seen : List Points} {cs : List Choice} :
    checkChoices separator seen cs = .ok () ↔
      ChoicesKept separator cs ∧ ChoicesNew seen cs := by
  induction cs generalizing seen with
  | nil => simp [checkChoices, choicesKept_nil, ChoicesNew]
  | cons c cs ih =>
    rw [checkChoices, bind_eq_ok_iff, choicesKept_cons]
    constructor
    · rintro ⟨ps, hps, h⟩
      obtain ⟨hc, hne, hsep⟩ := readLabel_eq_ok_iff.mp hps
      split at h
      · cases h
      · rename_i hseen
        obtain ⟨hcs, hrest⟩ := ih.mp h
        obtain ⟨hdiff, hnew⟩ := (choicesNew_cons_iff hc).mpr ⟨by simpa using hseen, hrest⟩
        exact ⟨⟨⟨ps, hc, hne, hsep⟩, hdiff, hcs⟩, hnew⟩
    · rintro ⟨⟨⟨ps, hc, hne, hsep⟩, hdiff, hcs⟩, hnew⟩
      obtain ⟨hseen, hrest⟩ := (choicesNew_cons_iff hc).mp ⟨hdiff, hnew⟩
      refine ⟨ps, readLabel_eq_ok_iff.mpr ⟨hc, hne, hsep⟩, ?_⟩
      rw [if_neg (by simpa using hseen)]
      exact ih.mpr ⟨hcs, hrest⟩

theorem any_alike_text_iff {reserved : List Value} {s : String} :
    (reserved.any fun r => r.alike (.text s)) = true ↔ Value.text s ∈ reserved := by
  rw [List.any_eq_true]
  constructor
  · rintro ⟨r, hr, h⟩
    exact Value.alike_text_iff.mp h ▸ hr
  · intro h
    exact ⟨_, h, Value.alike_text_iff.mpr rfl⟩

theorem nameKept_text_iff {reserved : List Value} {s : String} :
    NameKept reserved (.text s) ↔
      isIdentifier s = true ∧ isReserved s = false ∧ Value.text s ∉ reserved := by
  constructor
  · rintro ⟨⟨r, hr, hi, hw⟩, hn⟩
    cases hr
    exact ⟨hi, hw, hn⟩
  · rintro ⟨hi, hw, hn⟩
    exact ⟨⟨s, rfl, hi, hw⟩, hn⟩

theorem checkName_eq_ok_iff {reserved : List Value} {seen : List String} {name : Value}
    {s : String} :
    checkName reserved seen name = .ok s ↔ name = .text s ∧ NameKept reserved name ∧ s ∉ seen := by
  unfold checkName
  split
  · rename_i r
    rw [nameKept_text_iff]
    split
    · rename_i h
      simp only [reduceCtorEq, false_iff]
      rintro ⟨-, ⟨hi, hw, -⟩, -⟩
      simp [hi, hw] at h
    · rename_i h
      simp only [Bool.or_eq_true, Bool.not_eq_true', not_or, Bool.not_eq_false,
        Bool.not_eq_true] at h
      split
      · rename_i hr
        simp only [reduceCtorEq, false_iff]
        rintro ⟨-, ⟨-, -, hn⟩, -⟩
        exact hn (any_alike_text_iff.mp hr)
      · rename_i hr
        have hn : Value.text r ∉ reserved := fun hm => hr (any_alike_text_iff.mpr hm)
        split
        · rename_i hs
          simp only [reduceCtorEq, false_iff]
          rintro ⟨heq, -, hfresh⟩
          cases heq
          exact hfresh (by simpa using hs)
        · rename_i hs
          constructor
          · intro heq
            cases heq
            exact ⟨rfl, ⟨h.1, h.2, hn⟩, by simpa using hs⟩
          · rintro ⟨heq, -, -⟩
            cases heq
            rfl
  · rename_i hne
    simp only [reduceCtorEq, false_iff]
    rintro ⟨heq, -, -⟩
    exact hne s heq

theorem checkVariable_eq_ok_iff {separator : String} {reserved : List Value}
    {seen : List String} {v : Variable} {s : String} :
    checkVariable separator reserved seen v = .ok s ↔
      v.name = .text s ∧ VariableKept separator reserved v ∧ s ∉ seen := by
  rw [checkVariable, bind_eq_ok_iff]
  simp only [checkName_eq_ok_iff]
  constructor
  · rintro ⟨r, ⟨hr, hname, hfresh⟩, h⟩
    split at h
    · cases h
    · rename_i hvalues
      obtain ⟨_, hchoices, h⟩ := bind_eq_ok_iff.mp h
      cases h
      obtain ⟨hkept, -⟩ := checkChoices_eq_ok_iff.mp hchoices
      exact ⟨hr, ⟨hname, by simpa using hvalues, hkept⟩, hfresh⟩
  · rintro ⟨hs, ⟨hname, hvalues, hkept⟩, hfresh⟩
    refine ⟨s, ⟨hs, hname, hfresh⟩, ?_⟩
    have hchoices : checkChoices separator [] v.values = .ok () :=
      checkChoices_eq_ok_iff.mpr ⟨hkept, choicesNew_nil⟩
    rw [if_neg (by simpa using hvalues), hchoices]
    rfl

theorem variablesKept_nil {separator : String} {reserved : List Value} :
    VariablesKept separator reserved [] :=
  ⟨by simp, by simp⟩

theorem variablesKept_cons {separator : String} {reserved : List Value} {v : Variable}
    {vs : List Variable} :
    VariablesKept separator reserved (v :: vs) ↔
      VariableKept separator reserved v ∧ (∀ w ∈ vs, w.name ≠ v.name) ∧
        VariablesKept separator reserved vs := by
  constructor
  · rintro ⟨he, hd⟩
    rw [List.map_cons, List.nodup_cons] at hd
    refine ⟨he v (by simp), ?_, fun w hw => he w (by simp [hw]), hd.2⟩
    intro w hw h
    exact hd.1 (h ▸ List.mem_map_of_mem hw)
  · rintro ⟨hv, hne, hvs⟩
    refine ⟨?_, ?_⟩
    · intro w hw
      rcases List.mem_cons.mp hw with rfl | hw
      · exact hv
      · exact hvs.each w hw
    · rw [List.map_cons, List.nodup_cons]
      refine ⟨?_, hvs.distinct⟩
      intro h
      obtain ⟨w, hw, hwv⟩ := List.mem_map.mp h
      exact hne w hw hwv

/-- No variable has one of the names that were seen before. -/
def VariablesNew (seen : List String) (vs : List Variable) : Prop :=
  ∀ v ∈ vs, ∀ s ∈ seen, v.name ≠ .text s

theorem variablesNew_nil {vs : List Variable} : VariablesNew [] vs := by
  simp [VariablesNew]

/-- Once a variable was checked, its name is one of those that were seen. -/
theorem variablesNew_cons_iff {seen : List String} {v : Variable} {s : String}
    {vs : List Variable} (hv : v.name = .text s) :
    (∀ w ∈ vs, w.name ≠ v.name) ∧ VariablesNew seen (v :: vs) ↔
      s ∉ seen ∧ VariablesNew (s :: seen) vs := by
  constructor
  · rintro ⟨hdiff, hnew⟩
    refine ⟨fun hs => hnew v (by simp) s hs hv, ?_⟩
    intro w hw r hr
    rcases List.mem_cons.mp hr with rfl | hr
    · exact hv ▸ hdiff w hw
    · exact hnew w (by simp [hw]) r hr
  · rintro ⟨hs, hnew⟩
    refine ⟨fun w hw => hv ▸ hnew w hw s (by simp), ?_⟩
    intro w hw r hr hwr
    rcases List.mem_cons.mp hw with rfl | hw
    · rw [hv] at hwr
      cases hwr
      exact hs hr
    · exact hnew w hw r (by simp [hr]) hwr

/-- The check of items compares each name with those in `seen` and with those before it. -/
theorem checkItems_eq_ok_iff {separator : String} {title : Value} {reserved : List Value}
    {seen : List String} {items : List Item} {vs : List Variable} :
    checkItems separator title reserved seen items = .ok vs ↔
      items = vs.map .declared ∧ VariablesKept separator reserved vs ∧ VariablesNew seen vs := by
  induction items generalizing seen vs with
  | nil =>
    cases vs with
    | nil => simp [checkItems, variablesKept_nil, VariablesNew]
    | cons v vs => simp [checkItems]
  | cons item rest ih =>
    unfold checkItems
    split
    · cases vs with
      | nil => simp
      | cons v vs => simp
    · rename_i v
      simp only [bind_eq_ok_iff, mapError_eq_ok_iff, checkVariable_eq_ok_iff]
      constructor
      · rintro ⟨s, ⟨hs, hv, hseen⟩, ws, hws, h⟩
        cases h
        obtain ⟨rfl, hkept, hrest⟩ := ih.mp hws
        obtain ⟨hdiff, hnew⟩ := (variablesNew_cons_iff hs).mpr ⟨hseen, hrest⟩
        exact ⟨rfl, variablesKept_cons.mpr ⟨hv, hdiff, hkept⟩, hnew⟩
      · rintro ⟨hitems, hkept, hnew⟩
        cases vs with
        | nil => cases hitems
        | cons w ws =>
          obtain ⟨⟨⟩, hrest⟩ := List.cons.inj hitems
          obtain ⟨hv, hdiff, hws⟩ := variablesKept_cons.mp hkept
          obtain ⟨s, hs, -, -⟩ := hv.name.identifier
          obtain ⟨hseen, hlater⟩ := (variablesNew_cons_iff hs).mp ⟨hdiff, hnew⟩
          exact ⟨s, ⟨hs, hv, hseen⟩, ws, ih.mpr ⟨hrest, hws, hlater⟩, rfl⟩

theorem combinations_eq {vs : List Variable} (h : vs ≠ []) : combinations vs = gridSize vs := by
  rw [combinations, if_neg (by simpa using h), gridSize, List.prod_eq_foldl_nat]

theorem checkVariables_eq_ok_iff {config : Config} {title : Value} {items : List Item}
    {reserved : List Value} {vs : List Variable} :
    checkVariables config title items reserved = .ok vs ↔
      IsLabel config.separator title ∧ items = vs.map .declared ∧ vs ≠ [] ∧
        VariablesKept config.separator reserved vs ∧
        ∀ limit ∈ config.maxCases, (gridSize vs : Int) ≤ limit := by
  rw [checkVariables, bind_eq_ok_iff]
  simp only [mapError_eq_ok_iff, readLabel_eq_ok_iff]
  constructor
  · rintro ⟨ps, htitle, h⟩
    split at h
    · cases h
    · rename_i hitems
      obtain ⟨ws, hws, hcount⟩ := bind_eq_ok_iff.mp h
      obtain ⟨rfl, hkept, -⟩ := checkItems_eq_ok_iff.mp hws
      have hne : ws ≠ [] := by simpa using hitems
      split at hcount
      · rename_i hfits
        cases hcount
        rw [combinations_eq hne] at hfits
        exact ⟨⟨ps, htitle⟩, rfl, hne, hkept, Config.fits_iff.mp hfits⟩
      · cases hcount
  · rintro ⟨⟨ps, htitle⟩, rfl, hne, hkept, hwithin⟩
    refine ⟨ps, htitle, ?_⟩
    have hitems : checkItems config.separator title reserved [] (vs.map .declared) = .ok vs :=
      checkItems_eq_ok_iff.mpr ⟨rfl, hkept, variablesNew_nil⟩
    rw [if_neg (by simpa using hne), hitems]
    show (if config.fits (combinations vs) = true then _ else _) = _
    rw [combinations_eq hne, if_pos (Config.fits_iff.mpr hwithin)]
    rfl

/-- The check passes exactly the scenarios that keep the rules, and gives their variables. -/
theorem checkScenario_eq_ok_iff {config : Config} {s : Scenario} {vs : List Variable} :
    checkScenario config s = .ok vs ↔ Kept config s vs := by
  unfold checkScenario
  constructor
  · intro h
    split at h
    · cases h
    · rename_i hcompute
      split at h
      · cases h
      · rename_i hcheck
        split at h
        · rename_i r hr
          split at h
          · rename_i hi
            obtain ⟨htitle, hitems, hne, hkept, hwithin⟩ := checkVariables_eq_ok_iff.mp h
            exact ⟨⟨by simpa using hcompute, by simpa using hcheck, ⟨r, hr, hi⟩, htitle⟩, hitems,
              hne, hkept, hwithin⟩
          · cases h
        · cases h
  · rintro ⟨⟨hcompute, hcheck, ⟨r, hr, hi⟩, htitle⟩, hitems, hne, hkept, hwithin⟩
    rw [if_neg (by simpa using hcompute), if_neg (by simpa using hcheck)]
    split
    · rename_i q hq
      obtain rfl : q = r := by
        rw [hr] at hq
        cases hq
        rfl
      rw [if_pos hi]
      exact checkVariables_eq_ok_iff.mpr ⟨htitle, hitems, hne, hkept, hwithin⟩
    · rename_i hn
      exact absurd hr (hn r)

end CaseGrid.Validation
