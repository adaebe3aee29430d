import CaseGrid.Proofs.Validation.Rules

/-
  The first broken rule of a scenario, said of the scenario as it was declared.

  What stands before the broken rule keeps all of its own rules: the steps before the result name,
  the title before the items, the items before the one that is wrong, and in a variable the name
  before the candidates and these in their order. `Rejected` says which violation that is, and at
  which place; the place of a wrong item is the title and the name of that item.

  Proved: the check fails exactly with the rejection of the first broken rule
  (`checkScenario_eq_error_iff`), so that there is one for each scenario that does not keep the
  rules, and never two.
-/

namespace CaseGrid.Validation

open CaseGrid.Text (Points isIdentifier isReserved occursIn_iff)

/-! ## The first broken rule -/

/-- How a value fails to be a label. -/
inductive LabelBroken (what separator : String) (v : Value) : Violation → Prop where
  | noText (h : ∀ ps, v.points? = some ps → ps = []) :
    LabelBroken what separator v (.notLabel what v)
  | separatorInside {ps : Points} (hps : v.points? = some ps) (hne : ps ≠ [])
    (hsep : Points.ofString separator <:+: ps) :
    LabelBroken what separator v (.separatorInLabel what ps.shown separator)

/-- How candidates break the rules, at the first that does. -/
inductive ChoicesBroken (separator : String) (cs : List Choice) : Violation → Prop where
  | label {before after : List Choice} {c : Choice} {w : Violation}
    (hcs : cs = before ++ c :: after) (hkept : ChoicesKept separator before)
    (hc : LabelBroken "value name" separator c.name w) :
    ChoicesBroken separator cs w
  | repeated {before after : List Choice} {c : Choice} {ps : Points}
    (hcs : cs = before ++ c :: after) (hkept : ChoicesKept separator before)
    (hps : c.name.points? = some ps) (hc : IsLabel separator c.name)
    (hmem : ∃ d ∈ before, d.name = c.name) :
    ChoicesBroken separator cs (.repeatedValue ps.shown)

/-- How a name breaks the rules after some others. -/
inductive NameBroken (reserved earlier : List Value) (name : Value) : Violation → Prop where
  | notIdentifier (h : ¬ ∃ s, name = .text s ∧ isIdentifier s = true ∧ isReserved s = false) :
    NameBroken reserved earlier name .notIdentifier
  | reservedName (h : ∃ s, name = .text s ∧ isIdentifier s = true ∧ isReserved s = false)
    (hmem : name ∈ reserved) :
    NameBroken reserved earlier name .reservedName
  | repeated (h : NameKept reserved name) (hmem : name ∈ earlier) :
    NameBroken reserved earlier name .repeatedVariable

/-- How a variable breaks the rules after variables of some names. -/
inductive VariableBroken (separator : String) (reserved earlier : List Value) (v : Variable) :
    Violation → Prop where
  | name {w : Violation} (h : NameBroken reserved earlier v.name w) :
    VariableBroken separator reserved earlier v w
  | noValues (hname : NameKept reserved v.name) (hnew : v.name ∉ earlier) (h : v.values = []) :
    VariableBroken separator reserved earlier v .noValues
  | choices {w : Violation} (hname : NameKept reserved v.name) (hnew : v.name ∉ earlier)
    (hvalues : v.values ≠ []) (h : ChoicesBroken separator v.values w) :
    VariableBroken separator reserved earlier v w

/-- How an item breaks the rules after variables of some names, the last one first. -/
inductive ItemBroken (separator : String) (reserved earlier : List Value) :
    Item → Violation → Prop where
  | stray (v : Value) : ItemBroken separator reserved earlier (.stray v) (.notVariable v.kindName)
  | declared {v : Variable} {w : Violation} (h : VariableBroken separator reserved earlier v w) :
    ItemBroken separator reserved earlier (.declared v) w

/-- The first broken rule of a title and some items, and its place. -/
inductive ListRejected (config : Config) (title : Value) (items : List Item)
    (reserved : List Value) : Rejection → Prop where
  | title {w : Violation} (h : LabelBroken "title" config.separator title w) :
    ListRejected config title items reserved ⟨w, .null, .null⟩
  | noVariables (htitle : IsLabel config.separator title) (h : items = []) :
    ListRejected config title items reserved ⟨.noVariables, title, .null⟩
  | item {before : List Variable} {item : Item} {after : List Item} {w : Violation}
    (htitle : IsLabel config.separator title)
    (hitems : items = before.map .declared ++ item :: after)
    (hkept : VariablesKept config.separator reserved before)
    (h : ItemBroken config.separator reserved (before.map Variable.name).reverse item w) :
    ListRejected config title items reserved ⟨w, title, item.name⟩
  | tooMany {vs : List Variable} {limit : Int} (htitle : IsLabel config.separator title)
    (hitems : items = vs.map .declared) (hne : vs ≠ [])
    (hkept : VariablesKept config.separator reserved vs)
    (hlimit : config.maxCases = some limit) (h : limit < gridSize vs) :
    ListRejected config title items reserved ⟨.tooManyCases (gridSize vs) limit, title, .null⟩

/-- The first broken rule of a scenario and its place. -/
inductive Rejected (config : Config) (s : Scenario) : Rejection → Prop where
  | compute (h : s.compute.isCallable = false) :
    Rejected config s ⟨.computeNotCallable, s.title, .null⟩
  | check (hcompute : s.compute.isCallable = true) (h : s.check.isCallable = false) :
    Rejected config s ⟨.checkNotCallable, s.title, .null⟩
  | result (hcompute : s.compute.isCallable = true) (hcheck : s.check.isCallable = true)
    (h : ¬ ∃ q, s.resultName = .text q ∧ isIdentifier q = true) :
    Rejected config s ⟨.resultNotIdentifier, s.title, .null⟩
  | listed {r : Rejection} (hcompute : s.compute.isCallable = true)
    (hcheck : s.check.isCallable = true)
    (hresult : ∃ q, s.resultName = .text q ∧ isIdentifier q = true)
    (h : ListRejected config s.title s.items [s.resultName] r) :
    Rejected config s r

/-! ## Opening the checks -/

theorem readLabel_eq_error_iff {what separator : String} {v : Value} {w : Violation} :
    readLabel what separator v = .error w ↔ LabelBroken what separator v w := by
  constructor
  · intro h
    unfold readLabel at h
    split at h
    · rename_i hnone
      cases h
      exact .noText (by simp [hnone])
    · rename_i ps hps
      split at h
      · rename_i hempty
        cases h
        refine .noText ?_
        intro qs hqs
        rw [hps] at hqs
        cases hqs
        exact List.isEmpty_iff.mp hempty
      · rename_i hne
        split at h
        · rename_i hocc
          cases h
          exact .separatorInside hps (by simpa using hne) (occursIn_iff.mp hocc)
        · cases h
  · intro h
    unfold readLabel
    cases h with
    | noText hnone =>
      match hv : v.points? with
      | none => rfl
      | some ps =>
        obtain rfl := hnone ps hv
        rfl
    | separatorInside hps hne hsep =>
      rw [hps]
      dsimp only
      rw [if_neg (by simpa using hne), if_pos (occursIn_iff.mpr hsep)]

/-- How a candidate breaks the rules after some others, and after names that were seen before. -/
def ChoiceBroken (separator : String) (seen : List Points) (before : List Choice) (c : Choice)
    (w : Violation) : Prop :=
  LabelBroken "value name" separator c.name w ∨
    ∃ ps, c.name.points? = some ps ∧ IsLabel separator c.name ∧
      (ps ∈ seen ∨ ∃ d ∈ before, d.name = c.name) ∧ w = .repeatedValue ps.shown

/-- It makes no difference whether a name was seen or stands before. -/
theorem choiceBroken_cons_iff {separator : String} {seen : List Points} {before : List Choice}
    {b c : Choice} {ps : Points} {w : Violation} (hb : b.name.points? = some ps) :
    ChoiceBroken separator seen (b :: before) c w ↔
      ChoiceBroken separator (ps :: seen) before c w := by
  have hmem (qs : Points) (hq : c.name.points? = some qs) :
      (qs ∈ seen ∨ ∃ d ∈ b :: before, d.name = c.name) ↔
        (qs ∈ ps :: seen ∨ ∃ d ∈ before, d.name = c.name) := by
    have hsame : b.name = c.name ↔ qs = ps := by
      constructor
      · intro h
        rw [h, hq] at hb
        exact Option.some.inj hb
      · rintro rfl
        exact Value.eq_of_points?_eq hb hq
    rw [List.exists_mem_cons_iff, hsame, List.mem_cons, or_left_comm, or_assoc]
  constructor
  · rintro (h | ⟨qs, hq, hl, hrepeated, hw⟩)
    · exact .inl h
    · exact .inr ⟨qs, hq, hl, (hmem qs hq).mp hrepeated, hw⟩
  · rintro (h | ⟨qs, hq, hl, hrepeated, hw⟩)
    · exact .inl h
    · exact .inr ⟨qs, hq, hl, (hmem qs hq).mpr hrepeated, hw⟩

/-- The check of candidates fails at the first one that breaks a rule. -/
theorem checkChoices_eq_error_iff {separator : String} {seen : List Points} {cs : List Choice}
    {w : Violation} :
    checkChoices separator seen cs = .error w ↔
      ∃ before c after, cs = before ++ c :: after ∧ ChoicesKept separator before ∧
        ChoicesNew seen before ∧ ChoiceBroken separator seen before c w := by
  induction cs generalizing seen with
  | nil => simp [checkChoices]
  | cons c cs ih =>
    rw [checkChoices, bind_eq_error_iff, readLabel_eq_error_iff]
    constructor
    · rintro (hbroken | ⟨ps, hps, h⟩)
      · exact ⟨[], c, cs, rfl, choicesKept_nil, by simp [ChoicesNew], .inl hbroken⟩
      · obtain ⟨hc, hne, hsep⟩ := readLabel_eq_ok_iff.mp hps
        have hlabel : IsLabel separator c.name := ⟨ps, hc, hne, hsep⟩
        split at h
        · rename_i hseen
          cases h
          exact ⟨[], c, cs, rfl, choicesKept_nil, by simp [ChoicesNew],
            .inr ⟨ps, hc, hlabel, .inl (by simpa using hseen), rfl⟩⟩
        · rename_i hseen
          obtain ⟨before, d, after, rfl, hkept, hrest, hd⟩ := ih.mp h
          obtain ⟨hdiff, hnew⟩ := (choicesNew_cons_iff hc).mpr ⟨by simpa using hseen, hrest⟩
          exact ⟨c :: before, d, after, rfl, choicesKept_cons.mpr ⟨hlabel, hdiff, hkept⟩, hnew,
            (choiceBroken_cons_iff hc).mpr hd⟩
    · rintro ⟨before, d, after, hcs, hkept, hnew, hd⟩
      cases before with
      | nil =>
        obtain ⟨rfl, rfl⟩ := List.cons.inj hcs
        rcases hd with hd | ⟨ps, hps, ⟨qs, hqs, hne, hsep⟩, hmem, rfl⟩
        · exact .inl hd
        · rw [hps] at hqs
          cases hqs
          refine .inr ⟨ps, readLabel_eq_ok_iff.mpr ⟨hps, hne, hsep⟩, ?_⟩
          have hseen : ps ∈ seen := by simpa using hmem
          rw [if_pos (by simpa using hseen)]
          rfl
      | cons b before =>
        obtain ⟨rfl, rfl⟩ := List.cons.inj hcs
        obtain ⟨⟨ps, hps, hne, hsep⟩, hdiff, hkept⟩ := choicesKept_cons.mp hkept
        obtain ⟨hseen, hrest⟩ := (choicesNew_cons_iff hps).mp ⟨hdiff, hnew⟩
        refine .inr ⟨ps, readLabel_eq_ok_iff.mpr ⟨hps, hne, hsep⟩, ?_⟩
        rw [if_neg (by simpa using hseen)]
        exact ih.mpr ⟨before, d, after, rfl, hkept, hrest, (choiceBroken_cons_iff hps).mp hd⟩

theorem checkChoices_nil_eq_error_iff {separator : String} {cs : List Choice} {w : Violation} :
    checkChoices separator [] cs = .error w ↔ ChoicesBroken separator cs w := by
  rw [checkChoices_eq_error_iff]
  constructor
  · rintro ⟨before, c, after, hcs, hkept, -, h | ⟨ps, hps, hl, hmem, rfl⟩⟩
    · exact .label hcs hkept h
    · exact .repeated hcs hkept hps hl (by simpa using hmem)
  · intro h
    cases h with
    | label hcs hkept h => exact ⟨_, _, _, hcs, hkept, choicesNew_nil, .inl h⟩
    | repeated hcs hkept hps hl hmem =>
      exact ⟨_, _, _, hcs, hkept, choicesNew_nil, .inr ⟨_, hps, hl, .inr hmem, rfl⟩⟩

theorem checkName_eq_error_iff {reserved : List Value} {seen : List String} {name : Value}
    {w : Violation} :
    checkName reserved seen name = .error w ↔ NameBroken reserved (seen.map .text) name w := by
  constructor
  · intro h
    unfold checkName at h
    split at h
    · rename_i s
      split at h
      · rename_i hword
        cases h
        refine .notIdentifier ?_
        rintro ⟨r, hr, hi, hw⟩
        cases hr
        simp [hi, hw] at hword
      · rename_i hword
        have hident : isIdentifier s = true ∧ isReserved s = false := by simpa using hword
        split at h
        · rename_i hmem
          cases h
          exact .reservedName ⟨s, rfl, hident⟩ (any_alike_text_iff.mp hmem)
        · rename_i hmem
          split at h
          · rename_i hseen
            cases h
            refine .repeated ⟨⟨s, rfl, hident⟩, fun hr => hmem (any_alike_text_iff.mpr hr)⟩ ?_
            simpa using hseen
          · cases h
    · rename_i hno
      cases h
      refine .notIdentifier ?_
      rintro ⟨s, hs, -⟩
      exact hno s hs
  · intro h
    unfold checkName
    cases h with
    | notIdentifier hno =>
      split
      · rename_i s
        rw [if_pos]
        by_contra hword
        exact hno ⟨s, rfl, by simpa using hword⟩
      · rfl
    | reservedName hident hmem =>
      obtain ⟨s, rfl, hi, hw⟩ := hident
      dsimp only
      rw [if_neg (by simp [hi, hw]), if_pos (any_alike_text_iff.mpr hmem)]
    | repeated hkept hmem =>
      obtain ⟨s, rfl, hi, hw⟩ := hkept.identifier
      have hseen : s ∈ seen := by simpa using hmem
      dsimp only
      rw [if_neg (by simp [hi, hw]),
        if_neg (fun hr => hkept.not_reserved (any_alike_text_iff.mp hr)),
        if_pos (by simpa using hseen)]

theorem checkVariable_eq_error_iff {separator : String} {reserved : List Value}
    {seen : List String} {v : Variable} {w : Violation} :
    checkVariable separator reserved seen v = .error w ↔
      VariableBroken separator reserved (seen.map .text) v w := by
  rw [checkVariable, bind_eq_error_iff, checkName_eq_error_iff]
  constructor
  · rintro (h | ⟨s, hs, h⟩)
    · exact .name h
    · obtain ⟨hv, hname, hnew⟩ := checkName_eq_ok_iff.mp hs
      have hnew : v.name ∉ seen.map Value.text := by simpa [hv] using hnew
      split at h
      · rename_i hvalues
        cases h
        exact .noValues hname hnew (by simpa using hvalues)
      · rename_i hvalues
        rcases bind_eq_error_iff.mp h with h | ⟨_, _, h⟩
        · exact .choices hname hnew (by simpa using hvalues) (checkChoices_nil_eq_error_iff.mp h)
        · cases h
  · intro h
    have hok (hname : NameKept reserved v.name) (hnew : v.name ∉ seen.map Value.text) :
        ∃ s, checkName reserved seen v.name = .ok s := by
      obtain ⟨s, hs, -⟩ := hname.identifier
      refine ⟨s, checkName_eq_ok_iff.mpr ⟨hs, hname, ?_⟩⟩
      simpa [hs] using hnew
    cases h with
    | name h => exact .inl h
    | noValues hname hnew h =>
      obtain ⟨s, hs⟩ := hok hname hnew
      exact .inr ⟨s, hs, if_pos (by simpa using h)⟩
    | choices hname hnew hvalues h =>
      obtain ⟨s, hs⟩ := hok hname hnew
      refine .inr ⟨s, hs, ?_⟩
      rw [if_neg (by simpa using hvalues)]
      exact bind_eq_error_iff.mpr (.inl (checkChoices_nil_eq_error_iff.mpr h))

/-- The check of items fails at the first one that is no variable, or is a variable that breaks the
rules after the names before it and those in `seen`. -/
theorem checkItems_eq_error_iff {separator : String} {title : Value} {reserved : List Value}
    {seen : List String} {items : List Item} {r : Rejection} :
    checkItems separator title reserved seen items = .error r ↔
      ∃ before item after w, items = before.map .declared ++ item :: after ∧
        VariablesKept separator reserved before ∧ VariablesNew seen before ∧
        ItemBroken separator reserved
          ((before.map Variable.name).reverse ++ seen.map .text) item w ∧
        r = ⟨w, title, item.name⟩ := by
  induction items generalizing seen with
  | nil => simp [checkItems]
  | cons item rest ih =>
    unfold checkItems
    split
    · rename_i v
      constructor
      · intro h
        cases h
        exact ⟨[], .stray v, rest, _, rfl, variablesKept_nil, by simp [VariablesNew], .stray v,
          rfl⟩
      · rintro ⟨before, item, after, w, hitems, -, -, hbroken, rfl⟩
        cases before with
        | nil =>
          obtain ⟨rfl, rfl⟩ := List.cons.inj hitems
          cases hbroken
          rfl
        | cons b before => cases hitems
    · rename_i v
      rw [bind_eq_error_iff, mapError_eq_error_iff]
      simp only [mapError_eq_ok_iff, bind_eq_error_iff, checkVariable_eq_error_iff]
      constructor
      · rintro (⟨w, hw, rfl⟩ | ⟨s, hs, h⟩)
        · exact ⟨[], .declared v, rest, w, rfl, variablesKept_nil, by simp [VariablesNew],
            .declared hw, rfl⟩
        · obtain ⟨hv, hkept, hseen⟩ := checkVariable_eq_ok_iff.mp hs
          rcases h with h | ⟨_, _, h⟩
          · obtain ⟨before, item, after, w, rfl, hbefore, hrest, hbroken, rfl⟩ := ih.mp h
            obtain ⟨hdiff, hnew⟩ := (variablesNew_cons_iff hv).mpr ⟨hseen, hrest⟩
            exact ⟨v :: before, item, after, w, rfl,
              variablesKept_cons.mpr ⟨hkept, hdiff, hbefore⟩, hnew, by simpa [hv] using hbroken,
              rfl⟩
          · cases h
      · rintro ⟨before, item, after, w, hitems, hbefore, hnew, hbroken, rfl⟩
        cases before with
        | nil =>
          obtain ⟨rfl, rfl⟩ := List.cons.inj hitems
          cases hbroken with
          | declared h => exact .inl ⟨w, h, rfl⟩
        | cons b before =>
          obtain ⟨⟨⟩, rfl⟩ := List.cons.inj hitems
          obtain ⟨hkept, hdiff, hbefore⟩ := variablesKept_cons.mp hbefore
          obtain ⟨s, hs, -⟩ := hkept.name.identifier
          obtain ⟨hseen, hrest⟩ := (variablesNew_cons_iff hs).mp ⟨hdiff, hnew⟩
          refine .inr ⟨s, checkVariable_eq_ok_iff.mpr ⟨hs, hkept, hseen⟩, .inl (ih.mpr ?_)⟩
          exact ⟨before, item, after, w, rfl, hbefore, hrest, by simpa [hs] using hbroken, rfl⟩

theorem fits_eq_false_iff {config : Config} {count : Nat} :
    ¬ config.fits count = true ↔ ∃ limit, config.maxCases = some limit ∧ limit < count := by
  rw [Config.fits_iff]
  constructor
  · intro h
    by_contra hno
    refine h fun limit hlimit => ?_
    by_contra hlt
    exact hno ⟨limit, hlimit, by omega⟩
  · rintro ⟨limit, hlimit, hlt⟩ h
    have := h limit hlimit
    omega

theorem checkVariables_eq_error_iff {config : Config} {title : Value} {items : List Item}
    {reserved : List Value} {r : Rejection} :
    checkVariables config title items reserved = .error r ↔
      ListRejected config title items reserved r := by
  rw [checkVariables, bind_eq_error_iff, mapError_eq_error_iff]
  simp only [readLabel_eq_error_iff, mapError_eq_ok_iff, readLabel_eq_ok_iff]
  constructor
  · rintro (⟨w, hw, rfl⟩ | ⟨ps, htitle, h⟩)
    · exact .title hw
    · split at h
      · rename_i hitems
        cases h
        exact .noVariables ⟨ps, htitle⟩ (by simpa using hitems)
      · rename_i hitems
        rcases bind_eq_error_iff.mp h with h | ⟨vs, hvs, hcount⟩
        · obtain ⟨before, item, after, w, hsplit, hkept, -, hbroken, rfl⟩ :=
            checkItems_eq_error_iff.mp h
          exact .item ⟨ps, htitle⟩ hsplit hkept (by simpa using hbroken)
        · obtain ⟨rfl, hkept, -⟩ := checkItems_eq_ok_iff.mp hvs
          have hne : vs ≠ [] := by simpa using hitems
          split at hcount
          · cases hcount
          · rename_i hfits
            rw [combinations_eq hne] at hfits hcount
            obtain ⟨limit, hlimit, hlt⟩ := fits_eq_false_iff.mp hfits
            rw [hlimit] at hcount
            cases hcount
            exact .tooMany ⟨ps, htitle⟩ rfl hne hkept hlimit hlt
  · intro h
    cases h with
    | title h => exact .inl ⟨_, h, rfl⟩
    | noVariables htitle h =>
      obtain ⟨ps, hps⟩ := htitle
      exact .inr ⟨ps, hps, if_pos (by simpa using h)⟩
    | item htitle hitems hkept h =>
      obtain ⟨ps, hps⟩ := htitle
      refine .inr ⟨ps, hps, ?_⟩
      rw [if_neg (by simp [hitems])]
      refine bind_eq_error_iff.mpr (.inl (checkItems_eq_error_iff.mpr ?_))
      exact ⟨_, _, _, _, hitems, hkept, variablesNew_nil, by simpa using h, rfl⟩
    | @tooMany vs limit htitle hitems hne hkept hlimit h =>
      obtain ⟨ps, hps⟩ := htitle
      refine .inr ⟨ps, hps, ?_⟩
      rw [if_neg (by simpa [hitems] using hne)]
      refine bind_eq_error_iff.mpr (.inr ⟨vs, ?_, ?_⟩)
      · exact checkItems_eq_ok_iff.mpr ⟨hitems, hkept, variablesNew_nil⟩
      · rw [combinations_eq hne, if_neg (fits_eq_false_iff.mpr ⟨limit, hlimit, h⟩), hlimit]
        rfl

/-- The check fails exactly with the rejection of the first broken rule. -/
theorem checkScenario_eq_error_iff {config : Config} {s : Scenario} {r : Rejection} :
    checkScenario config s = .error r ↔ Rejected config s r := by
  constructor
  · intro h
    unfold checkScenario at h
    split at h
    · rename_i hcompute
      cases h
      exact .compute (by simpa using hcompute)
    · rename_i hcompute
      have hcompute : s.compute.isCallable = true := by simpa using hcompute
      split at h
      · rename_i hcheck
        cases h
        exact .check hcompute (by simpa using hcheck)
      · rename_i hcheck
        have hcheck : s.check.isCallable = true := by simpa using hcheck
        split at h
        · rename_i q hq
          split at h
          · rename_i hi
            exact .listed hcompute hcheck ⟨q, hq, hi⟩ (checkVariables_eq_error_iff.mp h)
          · rename_i hi
            cases h
            refine .result hcompute hcheck ?_
            rintro ⟨p, hp, hip⟩
            rw [hq] at hp
            cases hp
            exact hi hip
        · rename_i hno
          cases h
          exact .result hcompute hcheck fun ⟨q, hq, _⟩ => hno q hq
  · intro h
    unfold checkScenario
    cases h with
    | compute h => rw [h]; rfl
    | check hcompute h => rw [hcompute, h]; rfl
    | result hcompute hcheck h =>
      rw [if_neg (by simp [hcompute]), if_neg (by simp [hcheck])]
      split
      · rename_i q hq
        exact if_neg fun hi => h ⟨q, hq, hi⟩
      · rfl
    | listed hcompute hcheck hresult h =>
      obtain ⟨q, hq, hi⟩ := hresult
      rw [if_neg (by simp [hcompute]), if_neg (by simp [hcheck])]
      split
      · rename_i p hp
        rw [hq] at hp
        cases hp
        rw [if_pos hi]
        exact checkVariables_eq_error_iff.mpr h
      · rename_i hno
        exact absurd hq (hno q)

/-! ## What is kept and what is broken -/

theorem exists_choicesBroken_iff {separator : String} {cs : List Choice} :
    (∃ w, ChoicesBroken separator cs w) ↔ ¬ ChoicesKept separator cs := by
  have hok : checkChoices separator [] cs = .ok () ↔ ChoicesKept separator cs := by
    rw [checkChoices_eq_ok_iff]
    exact and_iff_left choicesNew_nil
  simp only [← checkChoices_nil_eq_error_iff, ← hok]
  cases checkChoices separator [] cs with
  | ok u => simp
  | error w => simp

/-- A variable breaks some rule unless it keeps its own rules and has a new name. -/
theorem exists_variableBroken_iff {separator : String} {reserved earlier : List Value}
    {v : Variable} :
    (∃ w, VariableBroken separator reserved earlier v w) ↔
      ¬ (VariableKept separator reserved v ∧ v.name ∉ earlier) := by
  constructor
  · rintro ⟨w, h⟩ ⟨⟨hname, hvalues, hchoices⟩, hnew⟩
    cases h with
    | name h =>
      cases h with
      | notIdentifier h => exact h hname.identifier
      | reservedName _ h => exact hname.not_reserved h
      | repeated _ h => exact hnew h
    | noValues _ _ h => exact hvalues h
    | choices _ _ _ h => exact exists_choicesBroken_iff.mp ⟨w, h⟩ hchoices
  · intro h
    by_cases hident : ∃ s, v.name = .text s ∧ isIdentifier s = true ∧ isReserved s = false
    · by_cases hreserved : v.name ∈ reserved
      · exact ⟨_, .name (.reservedName hident hreserved)⟩
      · have hname : NameKept reserved v.name := ⟨hident, hreserved⟩
        by_cases hnew : v.name ∈ earlier
        · exact ⟨_, .name (.repeated hname hnew)⟩
        · by_cases hvalues : v.values = []
          · exact ⟨_, .noValues hname hnew hvalues⟩
          · obtain ⟨w, hw⟩ := exists_choicesBroken_iff.mpr
              fun hchoices => h ⟨⟨hname, hvalues, hchoices⟩, hnew⟩
            exact ⟨w, .choices hname hnew hvalues hw⟩
    · exact ⟨_, .name (.notIdentifier hident)⟩

/-- An item breaks some rule unless it is a variable that keeps its own rules and has a new
name. -/
theorem exists_itemBroken_iff {separator : String} {reserved earlier : List Value}
    {item : Item} :
    (∃ w, ItemBroken separator reserved earlier item w) ↔
      ¬ ∃ v, item = .declared v ∧ VariableKept separator reserved v ∧ v.name ∉ earlier := by
  cases item with
  | stray x => simpa using ⟨_, ItemBroken.stray x⟩
  | declared v =>
    have hopen : (∃ w, ItemBroken separator reserved earlier (.declared v) w) ↔
        ∃ w, VariableBroken separator reserved earlier v w := by
      constructor
      · rintro ⟨w, ⟨⟩⟩
        exact ⟨w, by assumption⟩
      · rintro ⟨w, h⟩
        exact ⟨w, .declared h⟩
    rw [hopen, exists_variableBroken_iff]
    simp

/-- A scenario keeps the rules or has a first broken one, and not both. -/
theorem not_kept_iff {config : Config} {s : Scenario} :
    (¬ ∃ vs, Kept config s vs) ↔ ∃ r, Rejected config s r := by
  simp only [← checkScenario_eq_ok_iff, ← checkScenario_eq_error_iff]
  cases checkScenario config s with
  | ok vs => simp
  | error r => simp

theorem rejected_unique {config : Config} {s : Scenario} {r q : Rejection}
    (hr : Rejected config s r) (hq : Rejected config s q) : r = q := by
  rw [← checkScenario_eq_error_iff] at hr hq
  rw [hr] at hq
  cases hq
  rfl

end CaseGrid.Validation
