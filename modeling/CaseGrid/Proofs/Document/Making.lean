import CaseGrid.Proofs.Document.Mapping

/-
  Documents made of data. What is made of a piece of data is said without the reader: each name is
  the label of what stands at its place, and there is one candidate for each item or entry, in
  order. The schema and the reader are two readings of this one form.

  Data is viewed as values (`Source.Shows`): the data of a text by unfolding it, and values as they
  are. Looking for errors shows the candidates of each variable, and whatever is inside what can be
  shown can be shown by itself.

  Proved: the reader makes just this document (`ofData_of_made`), and there is one for all data that
  passes the check, which are the documents with candidates that can be shown
  (`check_eq_none_iff_shortValues`, `exists_made`).
-/

namespace CaseGrid

open Schema (field?)

/-! ## Views of data -/

/-- Pieces are viewed as values, and showing a piece shows all that can be reached from it. -/
structure Source.Shows {α : Type} (source : Source α) (view : α → Value) (a : α) : Prop where
  unrolled : source.Unrolled a
  literal : ∀ x, source.Within a x → source.literal x = (view x).written
  scalar : ∀ x s, source.Within a x → source.shape x = .scalar s → view x = .scalar s
  short_iff : ∀ x, source.Within a x → ((view x).isTooLong = false ↔
    ∀ y, source.Within x y → (source.shape y).showsLong = false)

namespace Source.Shows

variable {α : Type} {source : Source α} {view : α → Value} {a b : α}

theorem within (h : source.Shows view a) (hb : source.Within a b) : source.Shows view b :=
  ⟨h.unrolled.within hb, fun x hx => h.literal x (hb.trans hx),
    fun x s hx => h.scalar x s (hb.trans hx), fun x hx => h.short_iff x (hb.trans hx)⟩

/-- What is inside a piece without a long number has none. -/
theorem short_of_within (h : source.Shows view a) (hb : source.Within a b)
    (ha : (view a).isTooLong = false) : (view b).isTooLong = false :=
  (h.short_iff b hb).mpr fun x hx => (h.short_iff a .refl).mp ha x (hb.trans hx)

theorem scalar_short (h : source.Shows view a) (ha : (view a).isTooLong = false) {s : Scalar}
    (hs : source.shape a = .scalar s) : s.isTooLong = false := by
  rwa [h.scalar a s .refl hs, Value.isTooLong] at ha

theorem keys_short (h : source.Shows view a) (ha : (view a).isTooLong = false)
    {entries : List (Value × α)} (hentries : source.shape a = .map entries) :
    ∀ e ∈ entries, e.1.isTooLong = false := by
  have htop := (h.short_iff a .refl).mp ha a .refl
  rwa [hentries, Shape.showsLong_map_iff] at htop

theorem completes_literal_iff (h : source.Shows view a) :
    Schema.Completes (source.literal a) ↔ (view a).isTooLong = false := by
  rw [h.literal a .refl, Value.written]
  split
  · rename_i hlong
    simp [Schema.Completes, hlong]
  · rename_i hshort
    exact iff_of_true ⟨_, rfl⟩ (Bool.not_eq_true _ ▸ hshort)

/-- Candidates can be shown exactly if all of them have no number with too many digits. -/
theorem showable_iff (h : source.Shows view a) :
    Document.Showable source a ↔ (view a).isTooLong = false := by
  rw [Document.Showable, h.completes_literal_iff]
  refine and_iff_left_of_imp fun ha parts hparts part hpart s hs => ?_
  have hwithin := Source.within_item hparts hpart
  exact (h.within hwithin).completes_literal_iff.mpr (h.short_of_within hwithin ha)

end Source.Shows

/-- The data of a text is shown by unfolding it. -/
theorem Yaml.Data.shows (d : Yaml.Data) (p : Yaml.Piece) : d.source.Shows d.unfold p :=
  ⟨Document.unrolled d, fun _ _ => rfl, fun _ _ _ hs => unfold_scalar hs,
    fun _ _ => short_unfold_iff⟩

/-- The parts of a value are smaller than it. -/
theorem Value.sizeOf_lt_of_part {v w : Value} (h : w ∈ v.shape.parts) : sizeOf w < sizeOf v := by
  cases v with
  | list xs =>
    have hlt : sizeOf w < sizeOf xs := List.sizeOf_lt_of_mem h
    simp only [Value.list.sizeOf_spec]
    omega
  | tuple xs =>
    have hlt : sizeOf w < sizeOf xs := List.sizeOf_lt_of_mem h
    simp only [Value.tuple.sizeOf_spec]
    omega
  | map es =>
    obtain ⟨⟨k, w⟩, he, rfl⟩ := List.mem_map.mp h
    have hlt := List.sizeOf_lt_of_mem he
    simp only [Value.map.sizeOf_spec]
    simp only [Prod.mk.sizeOf_spec] at hlt
    omega
  | _ => exact absurd h List.not_mem_nil

theorem Value.short_of_shapes (v : Value)
    (h : ∀ w, Value.source.Within v w → w.shape.showsLong = false) : v.isTooLong = false :=
  Value.short_iff.mpr ⟨h v .refl, fun w hw =>
    have := Value.sizeOf_lt_of_part hw
    Value.short_of_shapes w fun x hx => h x (.head hw hx)⟩
termination_by sizeOf v

theorem Value.short_of_within {v w : Value} (hw : Value.source.Within v w)
    (hv : v.isTooLong = false) : w.isTooLong = false := by
  induction hw with
  | refl => exact hv
  | tail _ hpart ih => exact (Value.short_iff.mp ih).2 _ hpart

/-- Values are shown as they are, if no sign for a value around another one is inside. -/
theorem Value.shows {v : Value} (h : Value.source.Unrolled v) : Value.source.Shows id v := by
  refine ⟨h, fun _ _ => rfl, fun x s _ hs => ?_, fun x _ => ⟨fun hx y hy => ?_, fun hx => ?_⟩⟩
  · cases x with
    | scalar r =>
      cases hs
      rfl
    | _ => cases hs
  · exact (Value.short_iff.mp (Value.short_of_within hy hx)).1
  · exact Value.short_of_shapes x hx

namespace Document

/-! ## Documents made of data -/

section Normalised

variable {α : Type} (source : Source α)

/-- A text of a document is that of a piece of data. -/
def Labels (piece : α) (label : Value) : Prop :=
  ∃ s, source.shape piece = .scalar s ∧ (Value.scalar s).isTextual = true ∧ label = .scalar s

/-- A candidate is an item of a list: a scalar named by its label, or what stands under `value`
with the label of what stands under `name`. -/
inductive Denotes (part : α) (c : Value × α) : Prop where
  | plain {s : Scalar} (h : source.shape part = .scalar s)
    (hname : (Value.scalar s).named = .ok c.1) (hvalue : c.2 = part)
  | named {entries : List (Value × α)} {name : α} {s : Scalar}
    (h : source.shape part = .map entries) (hfield : field? entries "name" = some name)
    (hs : source.shape name = .scalar s) (hname : (Value.scalar s).named = .ok c.1)
    (hvalue : field? entries "value" = some c.2)

/-- Candidates are the items of a list, or the entries of a mapping named by their keys, in order. -/
inductive Lists (values : α) (cs : List (Value × α)) : Prop where
  | items {parts : List α} (h : source.shape values = .list parts)
    (hcs : List.Forall₂ (Denotes source) parts cs)
  | entries {entries : List (Value × α)} (h : source.shape values = .map entries)
    (hcs : List.Forall₂ (fun e c => e.1.named = .ok c.1 ∧ c.2 = e.2) entries cs)

/-- A variable is one of the data: it has its name, and its candidates in order, at least one and
all with a text as name. -/
structure AxisMade (part : α) (x : Axis α) : Prop where
  name : ∃ piece, field? (entriesOf source part) "name" = some piece ∧ Labels source piece x.name
  values : ∃ piece, field? (entriesOf source part) "values" = some piece ∧
    Lists source piece x.values
  nonempty : x.values ≠ []
  texts : ∀ c ∈ x.values, c.1.IsText

/-- A document is that of the data, with its title, its variables in order, and the name of the
result if there is one. -/
structure Made (a : α) (doc : Document α) : Prop where
  title : ∃ piece, field? (entriesOf source a) "title" = some piece ∧
    Labels source piece doc.title
  axes : ∃ listed parts, field? (entriesOf source a) "variables" = some listed ∧
    source.shape listed = .list parts ∧ List.Forall₂ (AxisMade source) parts doc.axes
  resultName : Option.Rel (Labels source) (field? (entriesOf source a) "result_name")
    doc.resultName

end Normalised

/-! ## The reader makes these documents -/

section Reading

variable {α : Type} {source : Source α} {a : α}

theorem label_of_labels {v : Value} (h : Labels source a v) : source.label a = .ok v := by
  obtain ⟨s, hs, htext, rfl⟩ := h
  rw [Source.label, hs]
  cases s with
  | text _ => rfl
  | broken _ => rfl
  | _ => cases htext

theorem labelAt_of_label {key : String} {piece : α} {v : Value}
    (hpiece : field? (entriesOf source a) key = some piece) (hlabel : source.label piece = .ok v) :
    labelAt source a key = .ok v := by
  rw [labelAt, labelAt?, hpiece]
  dsimp only
  rw [hlabel]
  rfl

theorem labelAt_of_labels {key : String} {v : Value}
    (h : ∃ piece, field? (entriesOf source a) key = some piece ∧ Labels source piece v) :
    labelAt source a key = .ok v := by
  obtain ⟨piece, hpiece, hlabels⟩ := h
  exact labelAt_of_label hpiece (label_of_labels hlabels)

theorem labelAt?_of_rel {key : String} {v : Option Value}
    (h : Option.Rel (Labels source) (field? (entriesOf source a) key) v) :
    labelAt? source a key = .ok v := by
  rw [labelAt?]
  cases hfield : field? (entriesOf source a) key with
  | none =>
    rw [hfield] at h
    cases h
    rfl
  | some piece =>
    rw [hfield] at h
    cases h with
    | some hlabels => exact map_eq_ok_iff.mpr ⟨_, label_of_labels hlabels, rfl⟩

theorem choiceOf_of_denotes {c : Value × α} (h : Denotes source a c) :
    choiceOf source a = .ok c := by
  obtain ⟨name, value⟩ := c
  cases h with
  | plain hs hname hvalue =>
    obtain rfl : value = a := hvalue
    rw [choiceOf, Source.label, hs]
    exact map_eq_ok_iff.mpr ⟨name, hname, rfl⟩
  | named hentries hfield hs hname hvalue =>
    have hlabel : labelAt source a "name" = .ok name := by
      refine labelAt_of_label (by rw [entriesOf_map hentries, hfield]) ?_
      rw [Source.label, hs]
      exact hname
    rw [choiceOf, hentries]
    dsimp only
    rw [hlabel, hvalue]
    rfl

theorem choicesOf_of_lists {cs : List (Value × α)} (h : Lists source a cs) :
    choicesOf source a = .ok cs := by
  rw [choicesOf]
  cases h with
  | items hparts hcs =>
    rw [hparts]
    exact mapM_eq_ok_iff.mpr (hcs.imp fun part c hc => choiceOf_of_denotes hc)
  | entries hentries hcs =>
    rw [hentries]
    refine mapM_eq_ok_iff.mpr (hcs.imp fun e c hc => ?_)
    exact map_eq_ok_iff.mpr ⟨c.1, hc.1, Prod.ext rfl hc.2.symm⟩

theorem axisOf_of_made {x : Axis α} (h : AxisMade source a x) : axisOf source a = .ok x := by
  obtain ⟨values, hvalues, hlists⟩ := h.values
  refine axisOf_eq_ok_iff.mpr ⟨labelAt_of_labels h.name, ?_⟩
  rw [valuesOf, hvalues]
  exact choicesOf_of_lists hlists

/-- The reader makes the document of the data, in whichever form the candidates are. -/
theorem ofData_of_made {doc : Document α} (h : Made source a doc) : ofData source a = .ok doc := by
  obtain ⟨listed, parts, hlisted, hparts, haxes⟩ := h.axes
  refine ofData_eq_ok_iff.mpr ⟨labelAt_of_labels h.title, ?_, labelAt?_of_rel h.resultName⟩
  rw [axesOf, hlisted, Option.map_some, hparts]
  exact mapM_eq_ok_iff.mpr (haxes.imp fun part x hx => axisOf_of_made hx)

end Reading

/-! ## There is a document of what passes the check -/

section Existence

variable {α : Type} {source : Source α} {view : α → Value} {a : α}

theorem exists_labels (h : HoldsLabel source a) : ∃ v, Labels source a v := by
  obtain ⟨s, hs, htext, -⟩ := h
  exact ⟨.scalar s, s, hs, htext, rfl⟩

/-- A candidate in a list has a name if it can be shown. -/
theorem exists_denotes (hs : source.Shows view a) (h : IsCandidate source a)
    (hshort : (view a).isTooLong = false) : ∃ c, Denotes source a c := by
  cases h with
  | @plain s hscalar _ =>
    obtain ⟨w, hw⟩ := Value.named_of_short (v := .scalar s) (hs.scalar_short hshort hscalar)
    exact ⟨(w, a), .plain hscalar hw rfl⟩
  | @named entries name value hentries _ hname hholds hvalue =>
    obtain ⟨s, hscalar, -, -⟩ := hholds
    have hwithin := Source.within_field hentries hname
    obtain ⟨w, hw⟩ := Value.named_of_short (v := .scalar s)
      ((hs.within hwithin).scalar_short (hs.short_of_within hwithin hshort) hscalar)
    exact ⟨(w, value), .named hentries hname hscalar hw hvalue⟩

/-- Candidates are there, one for each item or entry, if all of them can be shown. -/
theorem exists_lists (hs : source.Shows view a) (h : AreCandidates source a)
    (hshort : (view a).isTooLong = false) : ∃ cs, Lists source a cs ∧ cs ≠ [] := by
  cases h with
  | @items parts hparts hne hitems =>
    have hread : ∀ part ∈ parts, ∃ c, choiceOf source part = .ok c ∧ Denotes source part c := by
      intro part hpart
      have hwithin := Source.within_item hparts hpart
      obtain ⟨c, hc⟩ := exists_denotes (hs.within hwithin) (hitems part hpart)
        (hs.short_of_within hwithin hshort)
      exact ⟨c, choiceOf_of_denotes hc, hc⟩
    obtain ⟨cs, -, hdenotes⟩ := exists_mapM_forall₂ hread
    refine ⟨cs, .items hparts hdenotes, ?_⟩
    rintro rfl
    cases hdenotes
    exact hne rfl
  | @entries entries hentries hne =>
    have hread : ∀ e ∈ entries, ∃ c, (e.1.named.map fun name => (name, e.2)) = .ok c ∧
        (e.1.named = .ok c.1 ∧ c.2 = e.2) := by
      intro e he
      obtain ⟨w, hw⟩ := Value.named_of_short (hs.keys_short hshort hentries e he)
      exact ⟨(w, e.2), map_eq_ok_iff.mpr ⟨w, hw, rfl⟩, hw, rfl⟩
    obtain ⟨cs, -, hnames⟩ := exists_mapM_forall₂ hread
    refine ⟨cs, .entries hentries hnames, ?_⟩
    rintro rfl
    cases hnames
    exact hne rfl

theorem exists_axisMade (hs : source.Shows view a) (h : IsAxis source a)
    (hshort : ∀ v, field? (entriesOf source a) "values" = some v → (view v).isTooLong = false) :
    ∃ x, AxisMade source a x := by
  obtain @⟨entries, name, values, hentries, hkeys, hname, hholds, hvalues, hcandidates⟩ := h
  have hname' : field? (entriesOf source a) "name" = some name := by rwa [entriesOf_map hentries]
  have hvalues' : field? (entriesOf source a) "values" = some values := by
    rwa [entriesOf_map hentries]
  obtain ⟨label, hlabels⟩ := exists_labels hholds
  obtain ⟨cs, hlists, hne⟩ := exists_lists (hs.within (Source.within_field hentries hvalues))
    hcandidates (hshort values hvalues')
  exact ⟨⟨label, cs⟩, ⟨name, hname', hlabels⟩, ⟨values, hvalues', hlists⟩, hne,
    isText_of_choicesOf (choicesOf_of_lists hlists)⟩

/-- The candidates of each variable of some data are viewed without a long number. -/
def ShortValues (source : Source α) (view : α → Value) (a : α) : Prop :=
  ∀ n v, valuesAt? source a n = some v → (view v).isTooLong = false

theorem shortValues_iff {listed : α} {parts : List α}
    (hlisted : field? (entriesOf source a) "variables" = some listed)
    (hparts : source.shape listed = .list parts) :
    ShortValues source view a ↔ ∀ part ∈ parts, ∀ v,
      field? (entriesOf source part) "values" = some v → (view v).isTooLong = false := by
  simp only [ShortValues, valuesAt?_eq_some_iff]
  constructor
  · intro h part hpart v hv
    obtain ⟨n, hn⟩ := List.mem_iff_getElem?.mp hpart
    exact h n v ⟨listed, parts, part, hlisted, hparts, hn, hv⟩
  · rintro h n v ⟨listed', parts', part, hlisted', hparts', hn, hv⟩
    cases hlisted.symm.trans hlisted'
    cases hparts.symm.trans hparts'
    exact h part (List.mem_of_getElem? hn) v hv

/-- What is under `values` in a variable of a document is inside the document. -/
theorem within_values {listed part v : α} {parts : List α} {es fs : List (Value × α)}
    (hentries : source.shape a = .map es) (hlisted : field? es "variables" = some listed)
    (hparts : source.shape listed = .list parts) (hpart : part ∈ parts)
    (hfields : source.shape part = .map fs) (hv : field? fs "values" = some v) :
    source.Within a v :=
  ((Source.within_field hentries hlisted).trans (Source.within_item hparts hpart)).trans
    (Source.within_field hfields hv)

/-- Just these data pass: documents with short candidates. -/
theorem check_eq_none_iff_shortValues (hs : source.Shows view a) :
    schema.check source a = .ok none ↔ IsDocument source a ∧ ShortValues source view a := by
  rw [check_schema_iff hs.unrolled]
  refine and_congr_right fun h => ?_
  obtain @⟨_, _, _, parts, hentries, _, _, _, _, hlisted, hparts, _, haxes⟩ := h
  rw [shortValues_iff (by rwa [entriesOf_map hentries]) hparts, entriesOf_map hentries]
  have hshowable : ∀ part ∈ parts, ∀ v, field? (entriesOf source part) "values" = some v →
      (Showable source v ↔ (view v).isTooLong = false) := by
    intro part hpart v hv
    obtain ⟨hfields, _, _, _, _, _⟩ := haxes part hpart
    rw [entriesOf_map hfields] at hv
    exact (hs.within (within_values hentries hlisted hparts hpart hfields hv)).showable_iff
  constructor
  · exact fun h part hpart v hv =>
      (hshowable part hpart v hv).mp (h _ _ hlisted hparts part hpart v hv)
  · intro h listed' parts' hlisted' hparts' part hpart v hv
    cases hlisted.symm.trans hlisted'
    cases hparts.symm.trans hparts'
    exact (hshowable part hpart v hv).mpr (h part hpart v hv)

theorem exists_made (hs : source.Shows view a) (h : IsDocument source a)
    (hshort : ShortValues source view a) : ∃ doc, Made source a doc := by
  obtain @⟨entries, title, listed, parts, hentries, hkeys, htitle, hholds, hresult, hlisted,
    hparts, hne, haxes⟩ := h
  have hlisted' : field? (entriesOf source a) "variables" = some listed := by
    rwa [entriesOf_map hentries]
  have hwithin := Source.within_field hentries hlisted
  obtain ⟨label, hlabels⟩ := exists_labels hholds
  obtain ⟨result, hresults⟩ : ∃ result,
      Option.Rel (Labels source) (field? entries "result_name") result := by
    cases hname : field? entries "result_name" with
    | none => exact ⟨none, .none⟩
    | some name =>
      obtain ⟨v, hv⟩ := exists_labels (hresult name hname)
      exact ⟨some v, .some hv⟩
  have hread : ∀ part ∈ parts, ∃ x, axisOf source part = .ok x ∧ AxisMade source part x := by
    intro part hpart
    obtain ⟨x, hx⟩ := exists_axisMade (hs.within (hwithin.trans (Source.within_item hparts hpart)))
      (haxes part hpart) ((shortValues_iff hlisted' hparts).mp hshort part hpart)
    exact ⟨x, axisOf_of_made hx, hx⟩
  obtain ⟨xs, -, hmade⟩ := exists_mapM_forall₂ hread
  refine ⟨⟨label, xs, result⟩, ⟨title, ?_, hlabels⟩, ⟨listed, parts, hlisted', hparts, hmade⟩, ?_⟩
  · rwa [entriesOf_map hentries]
  · rwa [entriesOf_map hentries]

end Existence

end Document

end CaseGrid
