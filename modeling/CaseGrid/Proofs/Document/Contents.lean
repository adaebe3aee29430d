import CaseGrid.Proofs.Document.Unfolding
import CaseGrid.Proofs.Document.Validity
import CaseGrid.Proofs.Value.Texts

/-
  What a document is made of, said of the data. It is a mapping with a title and variables, and each
  variable is a mapping with a name and candidates. Candidates are the entries of a mapping, or the
  items of a list, each of them a scalar or a mapping with a name and a value.

  Proved: data of this kind is valid for the schema of documents (`IsDocument.valid`), and other data
  is not, if no piece in it stands for one around it (`valid_schema_iff`). A check of data of this
  kind ends exactly if the candidates of each variable, and the scalars listed among them, can be
  shown (`completes_schema_iff`): to look at both branches of a choice is to have the error of the
  one that does not fit.
-/

namespace CaseGrid

/-- A scalar of one of the types that a schema tells apart. -/
def Scalar.isPlain : Scalar → Bool
  | .bytes _ => false
  | .date _ => false
  | .timestamp _ => false
  | _ => true

/-- No piece that can be reached from this one stands for one around it. -/
def Source.Unrolled {α : Type} (source : Source α) (a : α) : Prop :=
  ∀ x, source.Within a x → ∀ c, source.shape x ≠ .again c

theorem Source.Unrolled.here {α : Type} {source : Source α} {a : α} (h : source.Unrolled a)
    (c : Container) : source.shape a ≠ .again c :=
  h a .refl c

theorem Source.Unrolled.within {α : Type} {source : Source α} {a b : α} (h : source.Unrolled a)
    (hb : source.Within a b) : source.Unrolled b :=
  fun x hx => h x (hb.trans hx)

namespace Schema

variable {α : Type} {source : Source α} {siblings : Option (List SchemaType)} {a : α}

/-! ## Mappings and lists -/

theorem same_text_iff {name : String} {v : Value} :
    (Value.text name).same v = true ↔ v = .text name := by
  have halike : (Value.text name).same v = (Value.text name).alike v := by
    cases v with
    | scalar s => cases s <;> simp [Value.same, Value.alike, Scalar.alike]
    | _ => rfl
  rw [halike, (Value.isText_text name).alike_iff, eq_comm]

/-- Every key is one of some texts. -/
def KeysAmong (entries : List (Value × α)) (keys : List String) : Prop :=
  ∀ e ∈ entries, ∃ k ∈ keys, e.1 = .text k

theorem extraKeys_eq_nil_iff {entries : List (Value × α)} {keys : List String} :
    extraKeys entries keys = [] ↔ KeysAmong entries keys := by
  simp only [extraKeys, List.filter_eq_nil_iff, List.mem_map, KeysAmong, Bool.not_eq_true',
    Bool.not_eq_false, List.any_eq_true, same_text_iff, forall_exists_index, and_imp,
    forall_apply_eq_imp_iff₂]

/-- A mapping that has some keys and no others than these, with demands on what they hold. -/
def object (needed keys : List String) (fields : List (String × Schema)) : Schema :=
  .all [.type [.object], .required needed, .closed keys, .properties fields]

/-- A list that is not empty, with a demand on its items. -/
def array (demand : Schema) : Schema :=
  .all [.type [.array], .nonEmpty .array, .items demand]

theorem fits_object_iff {s : Shape α} (h : ∀ c, s ≠ .again c) :
    (∃ t ∈ [SchemaType.object], t.fits s = true) ↔ ∃ entries, s = .map entries := by
  cases s with
  | again c => exact absurd rfl (h c)
  | _ => simp [SchemaType.fits]

theorem fits_array_iff {s : Shape α} (h : ∀ c, s ≠ .again c) :
    (∃ t ∈ [SchemaType.array], t.fits s = true) ↔ ∃ parts, s = .list parts := by
  cases s with
  | again c => exact absurd rfl (h c)
  | _ => simp [SchemaType.fits]

section Forms

variable {needed keys : List String} {fields : List (String × Schema)} {demand : Schema}

theorem valid_object {entries : List (Value × α)} (hentries : source.shape a = .map entries)
    (hneeded : ∀ k ∈ needed, (field? entries k).isSome = true) (hkeys : KeysAmong entries keys)
    (hfields : ∀ f ∈ fields, ∀ x, field? entries f.1 = some x → Valid source f.2 x) :
    Valid source (object needed keys fields) a := by
  rw [object, Valid, validAll_iff]
  simp only [List.forall_mem_cons, List.not_mem_nil, false_implies, implies_true, and_true, Valid,
    hentries]
  refine ⟨⟨.object, .head _, rfl⟩, ?_, ?_, ?_⟩ <;> rintro _ ⟨⟩
  · exact hneeded
  · exact extraKeys_eq_nil_iff.mpr hkeys
  · exact validFields_iff.mpr hfields

theorem exists_of_valid_object (h : ∀ c, source.shape a ≠ .again c)
    (hvalid : Valid source (object needed keys fields) a) :
    ∃ entries, source.shape a = .map entries ∧
      (∀ k ∈ needed, (field? entries k).isSome = true) ∧ KeysAmong entries keys ∧
      ∀ f ∈ fields, ∀ x, field? entries f.1 = some x → Valid source f.2 x := by
  rw [object, Valid, validAll_iff] at hvalid
  simp only [List.forall_mem_cons, List.not_mem_nil, false_implies, implies_true, and_true,
    Valid, fits_object_iff h] at hvalid
  obtain ⟨⟨entries, hentries⟩, hneeded, hclosed, hfields⟩ := hvalid
  exact ⟨entries, hentries, hneeded entries hentries,
    extraKeys_eq_nil_iff.mp (hclosed entries hentries),
    validFields_iff.mp (hfields entries hentries)⟩

theorem isEmptyOf_array_iff {parts : List α} : isEmptyOf .array (.list parts) = false ↔
    parts ≠ [] := by
  cases parts <;> simp [isEmptyOf]

theorem valid_array {parts : List α} (hparts : source.shape a = .list parts) (hne : parts ≠ [])
    (hitems : ∀ part ∈ parts, Valid source demand part) : Valid source (array demand) a := by
  rw [array, Valid, validAll_iff]
  simp only [List.forall_mem_cons, List.not_mem_nil, false_implies, implies_true, and_true, Valid,
    hparts]
  refine ⟨⟨.array, .head _, rfl⟩, isEmptyOf_array_iff.mpr hne, ?_⟩
  rintro _ ⟨⟩
  exact hitems

theorem exists_of_valid_array (h : ∀ c, source.shape a ≠ .again c)
    (hvalid : Valid source (array demand) a) :
    ∃ parts, source.shape a = .list parts ∧ parts ≠ [] ∧
      ∀ part ∈ parts, Valid source demand part := by
  rw [array, Valid, validAll_iff] at hvalid
  simp only [List.forall_mem_cons, List.not_mem_nil, false_implies, implies_true, and_true,
    Valid, fits_array_iff h] at hvalid
  obtain ⟨⟨parts, hparts⟩, hne, hitems⟩ := hvalid
  rw [hparts] at hne
  exact ⟨parts, hparts, isEmptyOf_array_iff.mp hne, hitems parts hparts⟩

/-- A check of a mapping that is valid ends exactly if the checks of what its keys hold do. -/
theorem completes_object_iff {entries : List (Value × α)} (hentries : source.shape a = .map entries)
    (h : KeysAmong entries keys) :
    Completes (errors source siblings (object needed keys fields) a) ↔
      ∀ f ∈ fields, ∀ x, field? entries f.1 = some x → Completes (errors source none f.2 x) := by
  have hclosed : Valid source (.closed keys) a := by
    rintro es hes
    rw [hentries] at hes
    cases hes
    exact extraKeys_eq_nil_iff.mpr h
  have htype : ∃ t ∈ [SchemaType.object], t.fits (source.shape a) = true := by
    rw [hentries]
    exact ⟨.object, List.mem_cons_self, rfl⟩
  rw [object, completes_all_iff]
  simp only [List.forall_mem_cons, List.not_mem_nil, false_implies, implies_true, and_true,
    completes_type_iff, htype,
    true_or, completes_required, completes_closed hclosed, true_and]
  rw [errors, hentries]
  exact completes_fieldErrors_iff

/-- Anything that is no mapping has to be shown. -/
theorem completes_object_of_other (h : ∀ c, source.shape a ≠ .again c)
    (hother : ∀ entries, source.shape a ≠ .map entries) :
    Completes (errors source siblings (object needed keys fields) a) ↔
      Completes (source.literal a) := by
  have htype : ¬ ∃ t ∈ [SchemaType.object], t.fits (source.shape a) = true := by
    rw [fits_object_iff h, not_exists]
    exact hother
  have hclosed : Valid source (.closed keys) a := fun entries hentries =>
    absurd hentries (hother entries)
  have hfields : Completes (errors source (typesOf [.type [.object], .required needed,
      .closed keys, .properties fields]) (.properties fields) a) := by
    rw [errors]
    split
    · rename_i entries hentries
      exact absurd hentries (hother entries)
    · exact ⟨[], rfl⟩
  rw [object, completes_all_iff]
  simp only [List.forall_mem_cons, List.not_mem_nil, false_implies, implies_true, and_true,
    completes_type_iff, htype,
    false_or, completes_required, completes_closed hclosed, hfields]

/-- A check of a list ends exactly if the checks of its items do. -/
theorem completes_array_iff {parts : List α} (hparts : source.shape a = .list parts)
    (hne : parts ≠ []) :
    Completes (errors source siblings (array demand) a) ↔
      ∀ part ∈ parts, Completes (errors source none demand part) := by
  have htype : ∃ t ∈ [SchemaType.array], t.fits (source.shape a) = true := by
    rw [hparts]
    exact ⟨.array, List.mem_cons_self, rfl⟩
  have hnonEmpty : Valid source (.nonEmpty .array) a := by
    rw [Valid, hparts]
    obtain ⟨x, xs, rfl⟩ := List.exists_cons_of_ne_nil hne
    rfl
  rw [array, completes_all_iff]
  simp only [List.forall_mem_cons, List.not_mem_nil, false_implies, implies_true, and_true,
    completes_type_iff, htype,
    true_or, completes_nonEmpty hnonEmpty, true_and]
  rw [errors, hparts]
  exact completes_itemErrors_iff

/-- Anything that is no list has to be shown. -/
theorem completes_array_of_map {entries : List (Value × α)}
    (hentries : source.shape a = .map entries) :
    Completes (errors source siblings (array demand) a) ↔ Completes (source.literal a) := by
  have htype : ¬ ∃ t ∈ [SchemaType.array], t.fits (source.shape a) = true := by
    simp [hentries, SchemaType.fits]
  have hnonEmpty : Valid source (.nonEmpty .array) a := by
    rw [Valid, hentries]
    rfl
  have hitems : Completes (errors source (typesOf [.type [.array], .nonEmpty .array,
      .items demand]) (.items demand) a) := by
    rw [errors, hentries]
    exact ⟨[], rfl⟩
  rw [array, completes_all_iff]
  simp only [List.forall_mem_cons, List.not_mem_nil, false_implies, implies_true, and_true,
    completes_type_iff, htype,
    false_or, completes_nonEmpty hnonEmpty, hitems]

/-- Anything has to be shown that is of none of some types, and nothing else. -/
theorem completes_types_iff {types : List SchemaType} :
    Completes (errors source siblings (.all [.type types]) a) ↔
      (∃ t ∈ types, t.fits (source.shape a) = true) ∨ Completes (source.literal a) := by
  rw [completes_all_iff, List.forall_mem_singleton, completes_type_iff]

theorem valid_types_iff {types : List SchemaType} :
    Valid source (.all [.type types]) a ↔ ∃ t ∈ types, t.fits (source.shape a) = true := by
  rw [Valid, validAll_iff, List.forall_mem_singleton, Valid]

end Forms

end Schema

namespace Document

open Schema (Completes KeysAmong Valid field?)

variable {α : Type} {source : Source α} {siblings : Option (List SchemaType)} {a : α}

/-! ## The parts of a document -/

/-- A piece of data is a text that is not empty. -/
def HoldsLabel (source : Source α) (a : α) : Prop :=
  ∃ s, source.shape a = .scalar s ∧ (Value.scalar s).isTextual = true ∧ s ≠ .text ""

/-- A piece of data is a text, a number or a truth value. -/
def HoldsName (source : Source α) (a : α) : Prop :=
  ∃ s, source.shape a = .scalar s ∧ s.isPlain = true ∧ s ≠ .null

/-- A candidate in a list: a scalar, or a mapping with a name and a value and nothing else. -/
inductive IsCandidate (source : Source α) (a : α) : Prop where
  | plain {s : Scalar} (h : source.shape a = .scalar s) (hplain : s.isPlain = true)
  | named {entries : List (Value × α)} {name value : α} (h : source.shape a = .map entries)
    (hkeys : KeysAmong entries ["name", "value"]) (hname : field? entries "name" = some name)
    (hholds : HoldsName source name) (hvalue : field? entries "value" = some value)

/-- The candidates of a variable: items or entries, at least one. -/
inductive AreCandidates (source : Source α) (a : α) : Prop where
  | items {parts : List α} (h : source.shape a = .list parts) (hne : parts ≠ [])
    (hitems : ∀ part ∈ parts, IsCandidate source part)
  | entries {entries : List (Value × α)} (h : source.shape a = .map entries) (hne : entries ≠ [])

/-- A variable: a mapping with a name and candidates and nothing else. -/
inductive IsAxis (source : Source α) (a : α) : Prop where
  | of {entries : List (Value × α)} {name values : α} (h : source.shape a = .map entries)
    (hkeys : KeysAmong entries ["name", "values"]) (hname : field? entries "name" = some name)
    (hholds : HoldsLabel source name) (hvalues : field? entries "values" = some values)
    (hcandidates : AreCandidates source values)

/-- A document: a mapping with a title, at least one variable, and perhaps a name for the result,
and nothing else. -/
inductive IsDocument (source : Source α) (a : α) : Prop where
  | of {entries : List (Value × α)} {title listed : α} {parts : List α}
    (h : source.shape a = .map entries)
    (hkeys : KeysAmong entries ["title", "result_name", "variables"])
    (htitle : field? entries "title" = some title) (hholds : HoldsLabel source title)
    (hresult : ∀ name, field? entries "result_name" = some name → HoldsLabel source name)
    (hlisted : field? entries "variables" = some listed)
    (hparts : source.shape listed = .list parts) (hne : parts ≠ [])
    (haxes : ∀ part ∈ parts, IsAxis source part)

/-! ## What the schema says -/

theorem valid_labelSchema_iff (h : ∀ c, source.shape a ≠ .again c) :
    Valid source labelSchema a ↔ HoldsLabel source a := by
  rw [labelSchema, Valid, Schema.validAll_iff, HoldsLabel]
  simp only [List.forall_mem_cons, List.not_mem_nil, false_implies, implies_true, and_true, Valid]
  cases hs : source.shape a with
  | scalar s =>
    cases s with
    | text t =>
      by_cases ht : t = "" <;> simp [ht, SchemaType.fits, Schema.isEmptyOf, Value.isTextual]
    | _ => simp [SchemaType.fits, Schema.isEmptyOf, Value.isTextual]
  | again c => exact absurd hs (h c)
  | _ => simp [SchemaType.fits]

theorem fits_name_iff (h : ∀ c, source.shape a ≠ .again c) :
    (∃ t ∈ [SchemaType.string, .number, .boolean], t.fits (source.shape a) = true) ↔
      HoldsName source a := by
  rw [HoldsName]
  cases hs : source.shape a with
  | scalar s => cases s <;> simp [SchemaType.fits, Scalar.isPlain]
  | again c => exact absurd hs (h c)
  | _ => simp [SchemaType.fits]

theorem fits_plain_iff (h : ∀ c, source.shape a ≠ .again c) :
    (∃ t ∈ [SchemaType.string, .number, .boolean, .null], t.fits (source.shape a) = true) ↔
      ∃ s, source.shape a = .scalar s ∧ s.isPlain = true := by
  cases hs : source.shape a with
  | scalar s => cases s <;> simp [SchemaType.fits, Scalar.isPlain]
  | again c => exact absurd hs (h c)
  | _ => simp [SchemaType.fits]

/-- A scalar stands for nothing around it. -/
theorem ne_again_of_scalar {s : Scalar} (h : source.shape a = .scalar s) (c : Container) :
    source.shape a ≠ .again c := by
  rw [h]
  nofun

theorem HoldsLabel.valid (h : HoldsLabel source a) : Valid source labelSchema a := by
  obtain ⟨s, hs, -, -⟩ := id h
  exact (valid_labelSchema_iff (ne_again_of_scalar hs)).mpr h

theorem HoldsName.fits (h : HoldsName source a) :
    ∃ t ∈ [SchemaType.string, .number, .boolean], t.fits (source.shape a) = true := by
  obtain ⟨s, hs, -, -⟩ := id h
  exact (fits_name_iff (ne_again_of_scalar hs)).mpr h

theorem fits_of_plain {s : Scalar} (hs : source.shape a = .scalar s) (hplain : s.isPlain = true) :
    ∃ t ∈ [SchemaType.string, .number, .boolean, .null], t.fits (source.shape a) = true :=
  (fits_plain_iff (ne_again_of_scalar hs)).mpr ⟨s, hs, hplain⟩

/-- The schema of an item among candidates. -/
def itemSchema : Schema :=
  .all [.choice false [choiceSchema, .all [.type [.string, .number, .boolean, .null]]]]

/-- The schema of candidates that are entries. -/
def entriesSchema : Schema :=
  .all [.type [.object], .nonEmpty .object]

theorem valid_itemSchema_iff : Valid source itemSchema a ↔ Valid source choiceSchema a ∨
    ∃ t ∈ [SchemaType.string, .number, .boolean, .null], t.fits (source.shape a) = true := by
  rw [itemSchema, Valid, Schema.validAll_iff, List.forall_mem_singleton, Valid, Schema.validSome_iff,
    List.exists_mem_cons_iff, List.exists_mem_cons_iff, Schema.valid_types_iff]
  simp only [List.not_mem_nil, false_and, exists_false, or_false]

theorem valid_entriesSchema {entries : List (Value × α)} (hentries : source.shape a = .map entries)
    (hne : entries ≠ []) : Valid source entriesSchema a := by
  rw [entriesSchema, Valid, Schema.validAll_iff]
  simp only [List.forall_mem_cons, List.not_mem_nil, false_implies, implies_true, and_true, Valid,
    hentries]
  obtain ⟨x, xs, rfl⟩ := List.exists_cons_of_ne_nil hne
  exact ⟨⟨.object, .head _, rfl⟩, rfl⟩

theorem exists_of_valid_entriesSchema (h : ∀ c, source.shape a ≠ .again c)
    (hvalid : Valid source entriesSchema a) :
    ∃ entries, source.shape a = .map entries ∧ entries ≠ [] := by
  rw [entriesSchema, Valid, Schema.validAll_iff] at hvalid
  simp only [List.forall_mem_cons, List.not_mem_nil, false_implies, implies_true, and_true, Valid,
    Schema.fits_object_iff h] at hvalid
  obtain ⟨⟨entries, hentries⟩, hne⟩ := hvalid
  refine ⟨entries, hentries, ?_⟩
  rintro rfl
  rw [hentries] at hne
  cases hne

theorem valid_valuesSchema_iff : Valid source valuesSchema a ↔
    Valid source (.array itemSchema) a ∨ Valid source entriesSchema a := by
  rw [show valuesSchema = .all [.choice true [.array itemSchema, entriesSchema]] from rfl, Valid,
    Schema.validAll_iff, List.forall_mem_singleton, Valid, Schema.validSome_iff,
    List.exists_mem_cons_iff, List.exists_mem_cons_iff]
  simp only [List.not_mem_nil, false_and, exists_false, or_false]

/-! ### A document is valid -/

theorem valid_choiceSchema {entries : List (Value × α)} {name value : α}
    (hentries : source.shape a = .map entries) (hkeys : KeysAmong entries ["name", "value"])
    (hname : field? entries "name" = some name) (hholds : HoldsName source name)
    (hvalue : field? entries "value" = some value) : Valid source choiceSchema a := by
  refine Schema.valid_object hentries ?_ hkeys ?_
  · simp [hname, hvalue]
  · simp only [List.forall_mem_cons, List.not_mem_nil, false_implies, implies_true, and_true,
      hname, hvalue, Option.some.injEq, forall_eq']
    exact ⟨Schema.valid_types_iff.mpr hholds.fits, trivial⟩

theorem IsCandidate.valid (h : IsCandidate source a) : Valid source itemSchema a := by
  rw [valid_itemSchema_iff]
  cases h with
  | plain hs hplain => exact .inr (fits_of_plain hs hplain)
  | named hentries hkeys hname hholds hvalue =>
    exact .inl (valid_choiceSchema hentries hkeys hname hholds hvalue)

theorem AreCandidates.valid (h : AreCandidates source a) : Valid source valuesSchema a := by
  rw [valid_valuesSchema_iff]
  cases h with
  | items hparts hne hitems =>
    exact .inl (Schema.valid_array hparts hne fun part hpart => (hitems part hpart).valid)
  | entries hentries hne => exact .inr (valid_entriesSchema hentries hne)

theorem IsAxis.valid (h : IsAxis source a) : Valid source axisSchema a := by
  obtain ⟨hentries, hkeys, hname, hholds, hvalues, hcandidates⟩ := h
  refine Schema.valid_object hentries ?_ hkeys ?_
  · simp [hname, hvalues]
  · simp only [List.forall_mem_cons, List.not_mem_nil, false_implies, implies_true, and_true,
      hname, hvalues, Option.some.injEq, forall_eq']
    exact ⟨hholds.valid, hcandidates.valid⟩

theorem IsDocument.valid (h : IsDocument source a) : Valid source schema a := by
  obtain ⟨hentries, hkeys, htitle, hholds, hresult, hlisted, hparts, hne, haxes⟩ := h
  refine Schema.valid_object hentries ?_ hkeys ?_
  · simp [htitle, hlisted]
  · simp only [List.forall_mem_cons, List.not_mem_nil, false_implies, implies_true, and_true,
      htitle, hlisted, Option.some.injEq, forall_eq']
    refine ⟨hholds.valid, fun name hname => (hresult name hname).valid, ?_⟩
    exact Schema.valid_array hparts hne fun part hpart => (haxes part hpart).valid

/-! ### What is valid is a document -/

theorem isCandidate_of_valid (h : source.Unrolled a) (hvalid : Valid source itemSchema a) :
    IsCandidate source a := by
  rcases valid_itemSchema_iff.mp hvalid with hchoice | hplain
  · obtain ⟨entries, hentries, hneeded, hkeys, hfields⟩ :=
      Schema.exists_of_valid_object h.here hchoice
    obtain ⟨name, hname⟩ := Option.isSome_iff_exists.mp (hneeded _ (.head _))
    obtain ⟨value, hvalue⟩ := Option.isSome_iff_exists.mp (hneeded _ (.tail _ (.head _)))
    have hfits := Schema.valid_types_iff.mp (hfields _ (.head _) name hname)
    have hbelow := h.within (Source.within_field hentries hname)
    exact .named hentries hkeys hname ((fits_name_iff hbelow.here).mp hfits) hvalue
  · obtain ⟨s, hs, hplain⟩ := (fits_plain_iff h.here).mp hplain
    exact .plain hs hplain

theorem areCandidates_of_valid (h : source.Unrolled a) (hvalid : Valid source valuesSchema a) :
    AreCandidates source a := by
  rcases valid_valuesSchema_iff.mp hvalid with hlist | hmap
  · obtain ⟨parts, hparts, hne, hitems⟩ := Schema.exists_of_valid_array h.here hlist
    refine .items hparts hne fun part hpart => ?_
    exact isCandidate_of_valid (h.within (Source.within_item hparts hpart)) (hitems part hpart)
  · obtain ⟨entries, hentries, hne⟩ := exists_of_valid_entriesSchema h.here hmap
    exact .entries hentries hne

theorem isAxis_of_valid (h : source.Unrolled a) (hvalid : Valid source axisSchema a) :
    IsAxis source a := by
  obtain ⟨entries, hentries, hneeded, hkeys, hfields⟩ := Schema.exists_of_valid_object h.here hvalid
  obtain ⟨name, hname⟩ := Option.isSome_iff_exists.mp (hneeded _ (.head _))
  obtain ⟨values, hvalues⟩ := Option.isSome_iff_exists.mp (hneeded _ (.tail _ (.head _)))
  have hlabel := h.within (Source.within_field hentries hname)
  have hbelow := h.within (Source.within_field hentries hvalues)
  exact .of hentries hkeys hname
    ((valid_labelSchema_iff hlabel.here).mp (hfields _ (.head _) name hname)) hvalues
    (areCandidates_of_valid hbelow (hfields _ (.tail _ (.head _)) values hvalues))

theorem isDocument_of_valid (h : source.Unrolled a) (hvalid : Valid source schema a) :
    IsDocument source a := by
  obtain ⟨entries, hentries, hneeded, hkeys, hfields⟩ := Schema.exists_of_valid_object h.here hvalid
  obtain ⟨title, htitle⟩ := Option.isSome_iff_exists.mp (hneeded _ (.head _))
  obtain ⟨listed, hlisted⟩ := Option.isSome_iff_exists.mp (hneeded _ (.tail _ (.head _)))
  have hlabel := h.within (Source.within_field hentries htitle)
  have hresult : ∀ name, field? entries "result_name" = some name → HoldsLabel source name := by
    intro name hname
    have hbelow := h.within (Source.within_field hentries hname)
    exact (valid_labelSchema_iff hbelow.here).mp (hfields _ (.tail _ (.head _)) name hname)
  have hbelow := h.within (Source.within_field hentries hlisted)
  obtain ⟨parts, hparts, hne, haxes⟩ := Schema.exists_of_valid_array hbelow.here
    (hfields _ (.tail _ (.tail _ (.head _))) listed hlisted)
  refine .of hentries hkeys htitle ?_ hresult hlisted hparts hne fun part hpart => ?_
  · exact (valid_labelSchema_iff hlabel.here).mp (hfields _ (.head _) title htitle)
  · exact isAxis_of_valid (hbelow.within (Source.within_item hparts hpart)) (haxes part hpart)

/-- The schema of documents says what a document is. -/
theorem valid_schema_iff (h : source.Unrolled a) :
    Valid source schema a ↔ IsDocument source a :=
  ⟨isDocument_of_valid h, IsDocument.valid⟩

/-! ## When a check of a document ends -/

/-- What a check of candidates shows can be shown: all of them, and the scalars among them. -/
def Showable (source : Source α) (values : α) : Prop :=
  Completes (source.literal values) ∧
    ∀ parts, source.shape values = .list parts → ∀ part ∈ parts, ∀ s,
      source.shape part = .scalar s → Completes (source.literal part)

theorem completes_labelSchema (h : HoldsLabel source a) :
    Completes (Schema.errors source siblings labelSchema a) := by
  obtain ⟨s, hs, htext, hne⟩ := h
  rw [labelSchema, Schema.completes_all_iff]
  simp only [List.forall_mem_cons, List.not_mem_nil, false_implies, implies_true, and_true,
    Schema.completes_type_iff]
  refine ⟨.inl ⟨.string, .head _, ?_⟩, Schema.completes_nonEmpty ?_⟩
  · rw [hs]
    cases s <;> first | rfl | cases htext
  · rw [Valid, hs]
    cases s with
    | text t =>
      have ht : t ≠ "" := fun h => hne (h ▸ rfl)
      simp [Schema.isEmptyOf, ht]
    | _ => rfl

/-- A scalar is shown in the error of the candidates that have a name. -/
theorem completes_itemSchema_iff (h : IsCandidate source a) :
    Completes (Schema.errors source siblings itemSchema a) ↔
      ∀ s, source.shape a = .scalar s → Completes (source.literal a) := by
  have hvalid : Valid source (.choice false [choiceSchema,
      .all [.type [.string, .number, .boolean, .null]]]) a := by
    have hitem := h.valid
    rwa [itemSchema, Valid, Schema.validAll_iff, List.forall_mem_singleton] at hitem
  rw [itemSchema, Schema.completes_all_iff, List.forall_mem_singleton,
    Schema.completes_choice_iff hvalid, Schema.completes_inclusive_iff]
  cases h with
  | @plain s hs hplain =>
    have hother (entries : List (Value × α)) : source.shape a ≠ .map entries := by
      rw [hs]
      nofun
    have hfits := fits_of_plain hs hplain
    rw [show choiceSchema = .object _ _ _ from rfl,
      Schema.completes_object_of_other (ne_again_of_scalar hs) hother, hs]
    simp only [Shape.scalar.injEq, forall_eq']
    refine and_iff_left (.inr ?_)
    rw [Schema.completes_inclusive_iff, Schema.completes_types_iff, Schema.valid_types_iff]
    exact ⟨.inl hfits, .inl hfits⟩
  | named hentries hkeys hname hholds hvalue =>
    have hchoice := valid_choiceSchema hentries hkeys hname hholds hvalue
    refine iff_of_true ⟨?_, .inl hchoice⟩ ?_
    · rw [show choiceSchema = .object _ _ _ from rfl, Schema.completes_object_iff hentries hkeys]
      simp only [List.forall_mem_cons, List.not_mem_nil, false_implies, implies_true, and_true,
        hname, hvalue, Option.some.injEq, forall_eq']
      refine ⟨Schema.completes_types_iff.mpr (.inl hholds.fits), ?_⟩
      exact Schema.completes_all_iff.mpr nofun
    · rw [hentries]
      nofun

theorem completes_entriesSchema_iff (h : AreCandidates source a) :
    Completes (Schema.errors source siblings entriesSchema a) ↔
      (∀ parts, source.shape a = .list parts → Completes (source.literal a)) := by
  have hnonEmpty : Valid source (.nonEmpty .object) a := by
    rw [Valid]
    cases h with
    | items hs _ _ => rw [hs]; rfl
    | entries hs hne =>
      rw [hs]
      obtain ⟨x, xs, rfl⟩ := List.exists_cons_of_ne_nil hne
      rfl
  rw [entriesSchema, Schema.completes_all_iff]
  simp only [List.forall_mem_cons, List.not_mem_nil, false_implies, implies_true, and_true,
    Schema.completes_type_iff, Schema.completes_nonEmpty hnonEmpty]
  cases h with
  | items hs _ _ => simp [hs, SchemaType.fits]
  | entries hs _ => simp [hs, SchemaType.fits]

/-- Items are shown in the error of entries, and entries in that of items. -/
theorem completes_valuesSchema_iff (h : AreCandidates source a) :
    Completes (Schema.errors source siblings valuesSchema a) ↔ Showable source a := by
  have hvalid : Valid source (.choice true [.array itemSchema, entriesSchema]) a := by
    have hvalues := h.valid
    rwa [show valuesSchema = .all [.choice true [.array itemSchema, entriesSchema]] from rfl,
      Valid, Schema.validAll_iff, List.forall_mem_singleton] at hvalues
  rw [show valuesSchema = .all [.choice true [.array itemSchema, entriesSchema]] from rfl,
    Schema.completes_all_iff, List.forall_mem_singleton, Schema.completes_choice_iff hvalid,
    Schema.completes_exclusive_iff, List.forall_mem_cons, List.forall_mem_singleton,
    completes_entriesSchema_iff h, Showable]
  cases h with
  | @items parts hs hne hitems =>
    have hscalars : (∀ part ∈ parts, Completes (Schema.errors source none itemSchema part)) ↔
        ∀ part ∈ parts, ∀ s, source.shape part = .scalar s → Completes (source.literal part) :=
      forall₂_congr fun part hpart => completes_itemSchema_iff (hitems part hpart)
    rw [Schema.completes_array_iff hs hne, hscalars, hs]
    simp only [Shape.list.injEq, forall_eq']
    exact and_comm
  | entries hs hne =>
    rw [Schema.completes_array_of_map hs, hs]
    simp

theorem entriesOf_map {entries : List (Value × α)} (h : source.shape a = .map entries) :
    entriesOf source a = entries := by
  rw [entriesOf, h]

theorem completes_axisSchema_iff (h : IsAxis source a) :
    Completes (Schema.errors source siblings axisSchema a) ↔
      ∀ values, field? (entriesOf source a) "values" = some values → Showable source values := by
  obtain ⟨hentries, hkeys, hname, hholds, hvalues, hcandidates⟩ := h
  rw [show axisSchema = .object _ _ _ from rfl, Schema.completes_object_iff hentries hkeys,
    entriesOf_map hentries]
  simp only [List.forall_mem_cons, List.not_mem_nil, false_implies, implies_true, and_true,
    hname, hvalues, Option.some.injEq, forall_eq', completes_valuesSchema_iff hcandidates,
    completes_labelSchema hholds, true_and]

/-- A check of a document ends exactly if the candidates of each variable can be shown. -/
theorem completes_schema_iff (h : IsDocument source a) :
    Completes (Schema.errors source siblings schema a) ↔
      ∀ listed parts, field? (entriesOf source a) "variables" = some listed →
        source.shape listed = .list parts → ∀ part ∈ parts, ∀ values,
          field? (entriesOf source part) "values" = some values → Showable source values := by
  obtain @⟨entries, title, listed, parts, hentries, hkeys, htitle, hholds, hresult, hlisted, hparts,
    hne, haxes⟩ := h
  rw [show schema = .object _ _ _ from rfl, Schema.completes_object_iff hentries hkeys,
    entriesOf_map hentries]
  have hnamed (name : α) (hname : field? entries "result_name" = some name) :
      Completes (Schema.errors source none labelSchema name) :=
    completes_labelSchema (hresult name hname)
  have hlist : Completes (Schema.errors source none (.array axisSchema) listed) ↔
      ∀ part ∈ parts, Completes (Schema.errors source none axisSchema part) :=
    Schema.completes_array_iff hparts hne
  have haxis : (∀ part ∈ parts, Completes (Schema.errors source none axisSchema part)) ↔
      ∀ part ∈ parts, ∀ values, field? (entriesOf source part) "values" = some values →
        Showable source values :=
    forall₂_congr fun part hpart => completes_axisSchema_iff (haxes part hpart)
  rw [Schema.array, haxis] at hlist
  simp only [List.forall_mem_cons, List.not_mem_nil, false_implies, implies_true, and_true,
    htitle, hlisted, Option.some.injEq, forall_eq', completes_labelSchema hholds, true_and, hlist]
  rw [and_iff_right hnamed]
  constructor
  · rintro hshow _ _ rfl hshape
    rw [hparts] at hshape
    cases hshape
    exact hshow
  · exact fun hshow => hshow _ _ rfl hparts

/-! ## Checks that end without errors -/

theorem check_eq_none_iff_errors {schema : Schema} :
    schema.check source a = .ok none ↔ schema.errors source none a = .ok [] := by
  rw [Schema.check, bind_eq_ok_iff]
  constructor
  · rintro ⟨errors, herrors, h⟩
    cases errors with
    | nil => exact herrors
    | cons e es => cases h
  · exact fun h => ⟨[], h, rfl⟩

/-- A check finds no error exactly if it ends and the data is valid. -/
theorem check_eq_none_iff {schema : Schema} :
    schema.check source a = .ok none ↔
      Valid source schema a ∧ Completes (schema.errors source none a) := by
  rw [check_eq_none_iff_errors]
  constructor
  · exact fun h => ⟨(Schema.nil_iff_valid schema a h).mp rfl, _, h⟩
  · rintro ⟨hvalid, errors, herrors⟩
    rwa [(Schema.nil_iff_valid schema a herrors).mpr hvalid] at herrors

theorem not_valid_of_check {schema : Schema} {r : Report} (h : schema.check source a = .ok (some r)) :
    ¬ Valid source schema a := by
  obtain ⟨errors, herrors, h⟩ := bind_eq_ok_iff.mp h
  intro hvalid
  obtain rfl := (Schema.nil_iff_valid schema a herrors).mpr hvalid
  cases h

/-- What a check finds no error in is a document whose candidates can be shown. -/
theorem check_schema_iff (h : source.Unrolled a) :
    schema.check source a = .ok none ↔ IsDocument source a ∧
      ∀ listed parts, field? (entriesOf source a) "variables" = some listed →
        source.shape listed = .list parts → ∀ part ∈ parts, ∀ values,
          field? (entriesOf source part) "values" = some values → Showable source values := by
  rw [check_eq_none_iff, valid_schema_iff h]
  exact and_congr_right completes_schema_iff

/-- A check finds no error in a document whose candidates can be shown. -/
theorem IsDocument.check_eq_none (h : IsDocument source a)
    (hshow : ∀ listed parts, field? (entriesOf source a) "variables" = some listed →
      source.shape listed = .list parts → ∀ part ∈ parts, ∀ values,
        field? (entriesOf source part) "values" = some values → Showable source values) :
    schema.check source a = .ok none :=
  check_eq_none_iff.mpr ⟨h.valid, (completes_schema_iff h).mpr hshow⟩

end Document

end CaseGrid
