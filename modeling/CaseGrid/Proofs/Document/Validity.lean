import CaseGrid.Proofs.Document.Checking

/-
  What a schema means. A schema is a predicate on data, keyword by keyword; checking goes through the
  same keywords and gives errors, in words that show what they are about. Showing may fail, so a
  check may break off, and a choice between schemas shows what fits one branch and not another.

  Proved: a check that ends has no errors exactly for valid data (`nil_iff_valid`), by induction on
  the schema; and, one lemma for each keyword, when a check of valid data ends. The keyword of a
  choice is the only one that shows anything of valid data.
-/

namespace CaseGrid.Schema

variable {α : Type} {source : Source α} {siblings : Option (List SchemaType)} {a : α}

/-! ## Valid data -/

mutual

/-- What a schema demands holds of a piece of data. -/
def Valid (source : Source α) : Schema → α → Prop
  | .all demands, a => ValidAll source demands a
  | .type types, a => ∃ t ∈ types, t.fits (source.shape a) = true
  | .required keys, a =>
    ∀ entries, source.shape a = .map entries → ∀ k ∈ keys, (field? entries k).isSome = true
  | .closed keys, a => ∀ entries, source.shape a = .map entries → extraKeys entries keys = []
  | .properties fields, a =>
    ∀ entries, source.shape a = .map entries → ValidFields source entries fields
  | .items demand, a =>
    ∀ parts, source.shape a = .list parts → ∀ part ∈ parts, Valid source demand part
  | .nonEmpty t, a => isEmptyOf t (source.shape a) = false
  | .choice _ branches, a => ValidSome source branches a
termination_by structural s => s

/-- All of some demands hold. -/
def ValidAll (source : Source α) : List Schema → α → Prop
  | [], _ => True
  | s :: rest, a => Valid source s a ∧ ValidAll source rest a
termination_by structural ss => ss

/-- What is demanded of the keys that are there holds. -/
def ValidFields (source : Source α) (entries : List (Value × α)) :
    List (String × Schema) → Prop
  | [] => True
  | (name, s) :: rest =>
    (∀ x, field? entries name = some x → Valid source s x) ∧ ValidFields source entries rest
termination_by structural fields => fields

/-- Some branch of a choice holds. -/
def ValidSome (source : Source α) : List Schema → α → Prop
  | [], _ => False
  | s :: rest, a => Valid source s a ∨ ValidSome source rest a
termination_by structural branches => branches

end

theorem validAll_iff {demands : List Schema} :
    ValidAll source demands a ↔ ∀ s ∈ demands, Valid source s a := by
  induction demands with
  | nil => simp [ValidAll]
  | cons s rest ih => rw [ValidAll, ih, List.forall_mem_cons]

theorem validFields_iff {entries : List (Value × α)} {fields : List (String × Schema)} :
    ValidFields source entries fields ↔
      ∀ f ∈ fields, ∀ x, field? entries f.1 = some x → Valid source f.2 x := by
  induction fields with
  | nil => simp [ValidFields]
  | cons f rest ih => rw [ValidFields, ih, List.forall_mem_cons]

theorem validSome_iff {branches : List Schema} :
    ValidSome source branches a ↔ ∃ s ∈ branches, Valid source s a := by
  induction branches with
  | nil => simp [ValidSome]
  | cons s rest ih => rw [ValidSome, ih, List.exists_mem_cons_iff]

/-! ## Checks that end find what is not valid -/

/-- Errors here and errors of the rest, one after the other. -/
theorem append_eq_ok_iff {x y : Except Fault (List SchemaError)}
    {f : List SchemaError → List SchemaError} {es : List SchemaError} :
    (x >>= fun here => y >>= fun rest => pure (f here ++ rest)) = .ok es ↔
      ∃ here rest, x = .ok here ∧ y = .ok rest ∧ es = f here ++ rest := by
  rw [bind_eq_ok_iff]
  constructor
  · rintro ⟨here, hx, h⟩
    obtain ⟨rest, hy, h⟩ := bind_eq_ok_iff.mp h
    exact ⟨here, rest, hx, hy, (Except.ok.inj h).symm⟩
  · rintro ⟨here, rest, hx, hy, rfl⟩
    exact ⟨here, hx, bind_eq_ok_iff.mpr ⟨rest, hy, rfl⟩⟩

theorem append_nil_iff {x y : List SchemaError} {f : List SchemaError → List SchemaError}
    {p q : Prop} (hx : f x = [] ↔ p) (hy : y = [] ↔ q) : f x ++ y = [] ↔ p ∧ q := by
  rw [List.append_eq_nil_iff, hx, hy]

/-- Items are without errors exactly if each of them is. -/
theorem items_nil_iff {check : α → Except Fault (List SchemaError)} {P : α → Prop}
    (hcheck : ∀ x es, check x = .ok es → (es = [] ↔ P x)) {i : Nat} {items : List α}
    {es : List SchemaError} (h : itemErrors check i items = .ok es) :
    es = [] ↔ ∀ x ∈ items, P x := by
  induction items generalizing i es with
  | nil =>
    cases h
    simp
  | cons x items ih =>
    rw [itemErrors] at h
    obtain ⟨here, rest, hhere, hrest, rfl⟩ := append_eq_ok_iff.mp h
    rw [List.forall_mem_cons]
    exact append_nil_iff (List.map_eq_nil_iff.trans (hcheck x here hhere)) (ih hrest)

/-- The error of a demand that is not met. -/
theorem eq_singleton_of_literal {f : String → SchemaError} {es : List SchemaError}
    (h : (source.literal a >>= fun shown => pure [f shown]) = .ok es) : es ≠ [] := by
  obtain ⟨_, _, h⟩ := bind_eq_ok_iff.mp h
  cases h
  exact List.cons_ne_nil _ _

mutual

/-- A check that ends has no errors exactly for valid data. -/
theorem nil_iff_valid {siblings : Option (List SchemaType)} :
    (s : Schema) → (a : α) → {es : List SchemaError} → errors source siblings s a = .ok es →
      (es = [] ↔ Valid source s a)
  | .all demands, a, es, h => nil_iff_validAll demands a h
  | .type types, a, es, h => by
    rw [errors] at h
    rw [Valid, ← List.any_eq_true]
    split at h
    · rename_i hfits
      cases h
      exact iff_of_true rfl hfits
    · rename_i hfits
      exact iff_of_false (eq_singleton_of_literal h) hfits
  | .required keys, a, es, h => by
    rw [errors] at h
    rw [Valid]
    split at h
    · rename_i entries hentries
      cases h
      rw [List.map_eq_nil_iff, List.filter_eq_nil_iff, hentries]
      simp [Option.isSome_iff_ne_none]
    · rename_i hother
      cases h
      exact iff_of_true rfl fun entries hentries => absurd hentries (hother entries)
  | .closed keys, a, es, h => by
    rw [errors] at h
    rw [Valid]
    split at h
    · rename_i entries hentries
      have hiff : (∀ es', source.shape a = .map es' → extraKeys es' keys = []) ↔
          extraKeys entries keys = [] := by
        rw [hentries]
        simp
      rw [hiff]
      dsimp only at h
      split at h
      · rename_i hextra
        cases h
        exact iff_of_true rfl (List.isEmpty_iff.mp hextra)
      · rename_i hextra
        obtain ⟨_, _, h⟩ := bind_eq_ok_iff.mp h
        cases h
        exact iff_of_false (List.cons_ne_nil _ _) (mt List.isEmpty_iff.mpr hextra)
    · rename_i hother
      cases h
      exact iff_of_true rfl fun entries hentries => absurd hentries (hother entries)
  | .properties fields, a, es, h => by
    rw [errors] at h
    rw [Valid]
    split at h
    · rename_i entries hentries
      rw [nil_iff_validFields fields h, hentries]
      simp
    · rename_i hother
      cases h
      exact iff_of_true rfl fun entries hentries => absurd hentries (hother entries)
  | .items demand, a, es, h => by
    rw [errors] at h
    rw [Valid]
    split at h
    · rename_i parts hparts
      rw [items_nil_iff (fun x _ hx => nil_iff_valid demand x hx) h, hparts]
      simp
    · rename_i hother
      cases h
      exact iff_of_true rfl fun parts hparts => absurd hparts (hother parts)
  | .nonEmpty t, a, es, h => by
    rw [errors] at h
    rw [Valid, ← Bool.not_eq_true]
    split at h
    · rename_i hempty
      exact iff_of_false (eq_singleton_of_literal h) (not_not_intro hempty)
    · rename_i hempty
      cases h
      exact iff_of_true rfl hempty
  | .choice exclusive branches, a, es, h => by
    rw [errors] at h
    obtain ⟨⟨passes, found⟩, hbranches, h⟩ := bind_eq_ok_iff.mp h
    rw [Valid, ← passes_iff_validSome branches a hbranches]
    cases passes with
    | true =>
      cases h
      exact iff_of_true rfl rfl
    | false => exact iff_of_false (eq_singleton_of_literal h) Bool.false_ne_true
termination_by structural s => s

theorem nil_iff_validAll {siblings : Option (List SchemaType)} :
    (ss : List Schema) → (a : α) → {es : List SchemaError} →
      allErrors source siblings ss a = .ok es → (es = [] ↔ ValidAll source ss a)
  | [], a, es, h => by
    cases h
    exact iff_of_true rfl trivial
  | s :: rest, a, es, h => by
    rw [allErrors] at h
    obtain ⟨here, others, hhere, hothers, rfl⟩ := append_eq_ok_iff (f := id).mp h
    exact append_nil_iff (f := id) (nil_iff_valid s a hhere) (nil_iff_validAll rest a hothers)
termination_by structural ss => ss

theorem nil_iff_validFields {entries : List (Value × α)} :
    (fields : List (String × Schema)) → {es : List SchemaError} →
      fieldErrors source entries fields = .ok es →
        (es = [] ↔ ValidFields source entries fields)
  | [], es, h => by
    cases h
    exact iff_of_true rfl trivial
  | (name, s) :: rest, es, h => by
    rw [fieldErrors] at h
    rw [ValidFields]
    dsimp only at h
    split at h
    · rename_i x hx
      obtain ⟨here, others, hhere, hothers, rfl⟩ := append_eq_ok_iff (f := id).mp h
      obtain ⟨errs, herrs, rfl⟩ := map_eq_ok_iff.mp hhere
      refine append_nil_iff (f := id) (List.map_eq_nil_iff.trans ?_)
        (nil_iff_validFields rest hothers)
      rw [nil_iff_valid s x herrs, hx]
      simp
    · rename_i hnone
      obtain ⟨here, others, hhere, hothers, rfl⟩ := append_eq_ok_iff (f := id).mp h
      cases hhere
      refine append_nil_iff (f := id) (iff_of_true rfl ?_) (nil_iff_validFields rest hothers)
      simp [hnone]
termination_by structural fields => fields

theorem passes_iff_validSome {exclusive : Bool} :
    (branches : List Schema) → (a : α) → {r : Bool × List SchemaError} →
      branchErrors source exclusive branches a = .ok r →
        (r.1 = true ↔ ValidSome source branches a)
  | [], a, r, h => by
    cases h
    exact iff_of_false Bool.false_ne_true id
  | s :: rest, a, r, h => by
    rw [branchErrors] at h
    obtain ⟨here, hhere, h⟩ := bind_eq_ok_iff.mp h
    have hvalid := nil_iff_valid s a hhere
    rw [ValidSome]
    split at h
    · rename_i hpass
      cases h
      exact iff_of_true rfl (.inl (hvalid.mp (List.isEmpty_iff.mp (Bool.and_eq_true_iff.mp hpass).1)))
    · obtain ⟨⟨passes, others⟩, hothers, h⟩ := bind_eq_ok_iff.mp h
      cases h
      have hrest := passes_iff_validSome rest a hothers
      rw [Bool.or_eq_true, List.isEmpty_iff, hvalid, hrest]
termination_by structural branches => branches

end

/-! ## When a check of valid data ends -/

/-- A check ended, with errors or without. -/
def Completes {β : Type} (x : Except Fault β) : Prop :=
  ∃ r, x = .ok r

theorem completes_bind_iff {β γ : Type} {x : Except Fault β} {f : β → Except Fault γ} :
    Completes (x >>= f) ↔ ∃ b, x = .ok b ∧ Completes (f b) := by
  constructor
  · rintro ⟨r, h⟩
    obtain ⟨b, hb, hr⟩ := bind_eq_ok_iff.mp h
    exact ⟨b, hb, r, hr⟩
  · rintro ⟨b, hb, r, hr⟩
    exact ⟨r, bind_eq_ok_iff.mpr ⟨b, hb, hr⟩⟩

theorem completes_bind_pure_iff {β γ : Type} {x : Except Fault β} {f : β → γ} :
    Completes (x >>= fun b => pure (f b)) ↔ Completes x :=
  completes_bind_iff.trans ⟨fun ⟨b, hb, _⟩ => ⟨b, hb⟩, fun ⟨b, hb⟩ => ⟨b, hb, f b, rfl⟩⟩

theorem completes_append_iff {x y : Except Fault (List SchemaError)}
    {f : List SchemaError → List SchemaError} :
    Completes (x >>= fun here => y >>= fun rest => pure (f here ++ rest)) ↔
      Completes x ∧ Completes y := by
  rw [completes_bind_iff]
  constructor
  · rintro ⟨here, hx, hy⟩
    exact ⟨⟨here, hx⟩, completes_bind_pure_iff.mp hy⟩
  · rintro ⟨⟨here, hx⟩, hy⟩
    exact ⟨here, hx, completes_bind_pure_iff.mpr hy⟩

theorem completes_all_iff {demands : List Schema} :
    Completes (errors source siblings (.all demands) a) ↔
      ∀ s ∈ demands, Completes (errors source (typesOf demands) s a) := by
  rw [errors]
  generalize typesOf demands = siblings
  induction demands with
  | nil => exact iff_of_true ⟨[], rfl⟩ nofun
  | cons s rest ih =>
    rw [allErrors, List.forall_mem_cons, ← ih]
    exact completes_append_iff (f := id)

theorem completes_type_iff {types : List SchemaType} :
    Completes (errors source siblings (.type types) a) ↔
      (∃ t ∈ types, t.fits (source.shape a) = true) ∨ Completes (source.literal a) := by
  rw [errors, ← List.any_eq_true]
  split
  · rename_i hfits
    exact iff_of_true ⟨[], rfl⟩ (.inl hfits)
  · rename_i hfits
    rw [or_iff_right hfits]
    exact completes_bind_pure_iff

theorem completes_required {keys : List String} :
    Completes (errors source siblings (.required keys) a) := by
  rw [errors]
  split <;> exact ⟨_, rfl⟩

theorem completes_closed {keys : List String} (h : Valid source (.closed keys) a) :
    Completes (errors source siblings (.closed keys) a) := by
  rw [errors]
  split
  · rename_i entries hentries
    exact ⟨[], if_pos (List.isEmpty_iff.mpr (h entries hentries))⟩
  · exact ⟨[], rfl⟩

theorem completes_fieldErrors_iff {fields : List (String × Schema)} {entries : List (Value × α)} :
    Completes (fieldErrors source entries fields) ↔
      ∀ f ∈ fields, ∀ x, field? entries f.1 = some x → Completes (errors source none f.2 x) := by
  induction fields with
  | nil => exact iff_of_true ⟨[], rfl⟩ nofun
  | cons f rest ih =>
    obtain ⟨name, s⟩ := f
    rw [fieldErrors, List.forall_mem_cons, ← ih]
    dsimp only
    split
    · rename_i x hx
      rw [hx]
      simp only [Option.some.injEq, forall_eq']
      refine (completes_append_iff (f := id)).trans (and_congr_left' ?_)
      exact completes_bind_pure_iff
    · rename_i hnone
      rw [hnone]
      refine (completes_append_iff (f := id)).trans (and_congr_left' ?_)
      exact iff_of_true ⟨[], rfl⟩ nofun

theorem completes_itemErrors_iff {check : α → Except Fault (List SchemaError)} {i : Nat}
    {items : List α} :
    Completes (itemErrors check i items) ↔ ∀ x ∈ items, Completes (check x) := by
  induction items generalizing i with
  | nil => exact iff_of_true ⟨[], rfl⟩ nofun
  | cons x items ih =>
    rw [itemErrors, List.forall_mem_cons, ← ih]
    exact completes_append_iff

theorem completes_nonEmpty {t : SchemaType} (h : Valid source (.nonEmpty t) a) :
    Completes (errors source siblings (.nonEmpty t) a) := by
  rw [errors, if_neg (by rw [show isEmptyOf t _ = false from h]; exact Bool.false_ne_true)]
  exact ⟨[], rfl⟩

/-- Where some branch holds, nothing is shown but by the branches. -/
theorem completes_choice_iff {exclusive : Bool} {branches : List Schema}
    (h : Valid source (.choice exclusive branches) a) :
    Completes (errors source siblings (.choice exclusive branches) a) ↔
      Completes (branchErrors source exclusive branches a) := by
  rw [errors, completes_bind_iff]
  constructor
  · rintro ⟨r, hr, -⟩
    exact ⟨r, hr⟩
  · rintro ⟨⟨passes, found⟩, hr⟩
    obtain rfl : passes = true := (passes_iff_validSome branches a hr).mpr h
    exact ⟨_, hr, [], rfl⟩

/-- In an exclusive choice all branches are looked at. -/
theorem completes_exclusive_iff {branches : List Schema} :
    Completes (branchErrors source true branches a) ↔
      ∀ s ∈ branches, Completes (errors source none s a) := by
  induction branches with
  | nil => exact iff_of_true ⟨_, rfl⟩ nofun
  | cons s rest ih =>
    rw [branchErrors, List.forall_mem_cons, ← ih]
    simp only [Bool.not_true, Bool.and_false, Bool.false_eq_true, if_false]
    rw [completes_bind_iff]
    constructor
    · rintro ⟨here, hhere, h⟩
      exact ⟨⟨here, hhere⟩, completes_bind_pure_iff.mp h⟩
    · rintro ⟨⟨here, hhere⟩, h⟩
      exact ⟨here, hhere, completes_bind_pure_iff.mpr h⟩

/-- In another choice the branches after one that holds are not looked at. -/
theorem completes_inclusive_iff {s : Schema} {rest : List Schema} :
    Completes (branchErrors source false (s :: rest) a) ↔
      Completes (errors source none s a) ∧
        (Valid source s a ∨ Completes (branchErrors source false rest a)) := by
  rw [branchErrors, completes_bind_iff]
  have hbranch (here : List SchemaError) (hhere : errors source none s a = .ok here) :
      Completes (if (here.isEmpty && !false) = true then pure (true, [])
        else branchErrors source false rest a >>= fun r =>
          pure (here.isEmpty || r.1, here ++ r.2) : Except Fault (Bool × List SchemaError)) ↔
        Valid source s a ∨ Completes (branchErrors source false rest a) := by
    rw [Bool.not_false, Bool.and_true, ← nil_iff_valid s a hhere, ← List.isEmpty_iff]
    split
    · rename_i hnil
      exact iff_of_true ⟨_, rfl⟩ (.inl hnil)
    · rename_i hne
      rw [or_iff_right hne]
      exact completes_bind_pure_iff
  constructor
  · rintro ⟨here, hhere, h⟩
    exact ⟨⟨here, hhere⟩, (hbranch here hhere).mp h⟩
  · rintro ⟨⟨here, hhere⟩, h⟩
    exact ⟨here, hhere, (hbranch here hhere).mpr h⟩

end CaseGrid.Schema
