import CaseGrid.Proofs.Document.Normalising

/-
  Normalising what was normalised. The canonical form of a document is data again: a mapping in
  which every candidate is written in full, with its name and its value. It is a document, too, of
  which the reader makes the same one, as every name in it is a text, and a text is its own label.

  Proved: the canonical form of data that passes the check passes the check and is its own canonical
  form (`renormalises`), and data in different forms with the same labels and values has one
  canonical form. To look for errors shows the candidates of the canonical form, names and values;
  the values can be shown, as each is inside the candidates of the data.
-/

namespace CaseGrid.Document

open Schema (field?)
open Yaml (Data Piece)

/-! ## Documents in full -/

/-- The candidates of a variable can be written in full: they have texts as names, and values that
can be shown. -/
structure CanonicalAxis (x : Axis Value) : Prop where
  name : HoldsLabel Value.source x.name
  values_ne_nil : x.values ≠ []
  texts : ∀ c ∈ x.values, c.1.IsText
  short : ∀ c ∈ x.values, c.2.isTooLong = false

/-- A document can be written in full. -/
structure Canonical (doc : Document Value) : Prop where
  title : HoldsLabel Value.source doc.title
  resultName : ∀ name, doc.resultName = some name → HoldsLabel Value.source name
  axes_ne_nil : doc.axes ≠ []
  axes : ∀ x ∈ doc.axes, CanonicalAxis x

theorem holdsLabel_of_labels {α : Type} {source : Source α} {piece : α} {v : Value}
    (h : HoldsLabel source piece) (hv : Labels source piece v) : HoldsLabel Value.source v := by
  obtain ⟨s, hs, htext, hne⟩ := h
  obtain ⟨s', hs', -, rfl⟩ := hv
  cases hs.symm.trans hs'
  exact ⟨s, rfl, htext, hne⟩

theorem labels_of_holdsLabel {v : Value} (h : HoldsLabel Value.source v) :
    Labels Value.source v v := by
  obtain ⟨s, hs, htext, -⟩ := h
  cases v with
  | scalar r =>
    obtain rfl : r = s := Shape.scalar.inj hs
    exact ⟨r, rfl, htext, rfl⟩
  | _ => cases hs

/-- A text is a scalar that is its own label. -/
theorem exists_scalar_of_isText {v : Value} (h : v.IsText) :
    ∃ s, v = .scalar s ∧ s.isPlain = true ∧ s ≠ .null ∧ (Value.scalar s).named = .ok v := by
  obtain ⟨ps, hps⟩ := h
  unfold Value.points? at hps
  split at hps
  · exact ⟨_, rfl, rfl, nofun, rfl⟩
  · exact ⟨_, rfl, rfl, nofun, rfl⟩
  · cases hps

/-! ## What is written in full is a document -/

section Full

variable {c : Value × Value} {x : Axis Value} {doc : Document Value}

/-- The entries of a document in full. -/
def entriesInFull (doc : Document Value) : List (Value × Value) :=
  [(.text "title", doc.title), (.text "variables", .list (doc.axes.map axisValue))] ++
    (match doc.resultName with
      | some name => [(.text "result_name", name)]
      | none => [])

theorem field?_resultName (doc : Document Value) :
    field? (entriesInFull doc) "result_name" = doc.resultName := by
  unfold entriesInFull
  cases doc.resultName <;> rfl

theorem keysAmong_entriesInFull (doc : Document Value) :
    Schema.KeysAmong (entriesInFull doc) ["title", "result_name", "variables"] := by
  unfold entriesInFull
  cases doc.resultName <;> simp [Schema.KeysAmong]

theorem isCandidate_choiceValue (h : c.1.IsText) : IsCandidate Value.source (choiceValue c) := by
  obtain ⟨s, hs, hplain, hnull, -⟩ := exists_scalar_of_isText h
  have hentries : Value.source.shape (choiceValue c) =
      .map [(.text "name", c.1), (.text "value", c.2)] := rfl
  have hholds : HoldsName Value.source c.1 := ⟨s, by rw [hs]; rfl, hplain, hnull⟩
  exact .named hentries (by simp [Schema.KeysAmong]) rfl hholds rfl

theorem areCandidates_of_canonical (h : CanonicalAxis x) :
    AreCandidates Value.source (.list (x.values.map choiceValue)) := by
  have hparts : Value.source.shape (.list (x.values.map choiceValue)) =
      .list (x.values.map choiceValue) := rfl
  refine .items hparts (by simpa using h.values_ne_nil) fun part hpart => ?_
  obtain ⟨c, hc, rfl⟩ := List.mem_map.mp hpart
  exact isCandidate_choiceValue (h.texts c hc)

theorem isAxis_axisValue (h : CanonicalAxis x) : IsAxis Value.source (axisValue x) := by
  have hentries : Value.source.shape (axisValue x) =
      .map [(.text "name", x.name), (.text "values", .list (x.values.map choiceValue))] := rfl
  exact .of hentries (by simp [Schema.KeysAmong]) rfl h.name rfl (areCandidates_of_canonical h)

theorem isDocument_value (h : Canonical doc) : IsDocument Value.source doc.value := by
  have hentries : Value.source.shape doc.value = .map (entriesInFull doc) := rfl
  have hparts : Value.source.shape (.list (doc.axes.map axisValue)) =
      .list (doc.axes.map axisValue) := rfl
  have htitle : field? (entriesInFull doc) "title" = some doc.title := rfl
  refine .of hentries (keysAmong_entriesInFull doc) htitle h.title ?_ rfl hparts
    (by simpa using h.axes_ne_nil) fun part hpart => ?_
  · intro name hname
    exact h.resultName name ((field?_resultName doc).symm.trans hname)
  · obtain ⟨x, hx, rfl⟩ := List.mem_map.mp hpart
    exact isAxis_axisValue (h.axes x hx)

/-- The candidates in full can be shown: their names are texts, and their values can be shown. -/
theorem short_choiceValue (hname : c.1.IsText) (hvalue : c.2.isTooLong = false) :
    (choiceValue c).isTooLong = false := by
  rw [choiceValue, Value.isTooLong, Value.someEntryTooLong_eq_false_iff]
  simp only [List.forall_mem_cons, List.not_mem_nil, false_implies, implies_true, and_true]
  exact ⟨⟨(Value.isText_text _).isTooLong, hname.isTooLong⟩, (Value.isText_text _).isTooLong,
    hvalue⟩

theorem showable_of_canonical (h : CanonicalAxis x) :
    Showable Value.source (.list (x.values.map choiceValue)) := by
  have hshort : (Value.list (x.values.map choiceValue)).isTooLong = false := by
    rw [Value.isTooLong, Value.someTooLong_eq_false_iff]
    intro v hv
    obtain ⟨c, hc, rfl⟩ := List.mem_map.mp hv
    exact short_choiceValue (h.texts c hc) (h.short c hc)
  refine ⟨⟨_, Value.written_of_short hshort⟩, ?_⟩
  rintro _ ⟨⟩ part hpart s hs
  obtain ⟨c, -, rfl⟩ := List.mem_map.mp hpart
  cases hs

theorem check_value (h : Canonical doc) : schema.check Value.source doc.value = .ok none := by
  refine (isDocument_value h).check_eq_none fun listed parts hlisted hparts part hpart v hv => ?_
  obtain rfl : Value.list (doc.axes.map axisValue) = listed := Option.some.inj hlisted
  cases hparts
  obtain ⟨x, hx, rfl⟩ := List.mem_map.mp hpart
  obtain rfl : Value.list (x.values.map choiceValue) = v := Option.some.inj hv
  exact showable_of_canonical (h.axes x hx)

/-! ## The reader makes the same document of it -/

theorem denotes_choiceValue (h : c.1.IsText) : Denotes Value.source (choiceValue c) c := by
  obtain ⟨s, hs, -, -, hnamed⟩ := exists_scalar_of_isText h
  have hentries : Value.source.shape (choiceValue c) =
      .map [(.text "name", c.1), (.text "value", c.2)] := rfl
  have hshape : Value.source.shape c.1 = .scalar s := by
    rw [hs]
    rfl
  exact .named hentries rfl hshape hnamed rfl

theorem axisMade_axisValue (h : CanonicalAxis x) : AxisMade Value.source (axisValue x) x := by
  refine ⟨⟨x.name, rfl, labels_of_holdsLabel h.name⟩, ⟨_, rfl, .items rfl ?_⟩, h.values_ne_nil,
    h.texts⟩
  rw [List.forall₂_map_left_iff, List.forall₂_same]
  exact fun c hc => denotes_choiceValue (h.texts c hc)

theorem made_value (h : Canonical doc) : Made Value.source doc.value doc := by
  refine ⟨⟨doc.title, rfl, labels_of_holdsLabel h.title⟩, ⟨_, _, rfl, rfl, ?_⟩, ?_⟩
  · rw [List.forall₂_map_left_iff, List.forall₂_same]
    exact fun x hx => axisMade_axisValue (h.axes x hx)
  · show Option.Rel _ (field? (entriesInFull doc) "result_name") doc.resultName
    rw [field?_resultName]
    cases hname : doc.resultName with
    | none => exact .none
    | some name => exact .some (labels_of_holdsLabel (h.resultName name hname))

end Full

/-! ## What is made of data can be written in full -/

section Data

variable {α : Type} {source : Source α} {view : α → Value} {a : α}

/-- The value of a candidate is inside the candidates. -/
theorem within_of_lists {v : α} {cs : List (Value × α)} (h : Lists source v cs) {c : Value × α}
    (hc : c ∈ cs) : source.Within v c.2 := by
  cases h with
  | items hparts hcs =>
    obtain ⟨part, hpart, hdenotes⟩ := exists_of_mem_forall₂ hcs hc
    have hitem := Source.within_item hparts hpart
    cases hdenotes with
    | plain _ _ hvalue => exact hvalue ▸ hitem
    | named hentries _ _ _ hvalue => exact hitem.trans (Source.within_field hentries hvalue)
  | entries hentries hcs =>
    obtain ⟨e, he, -, hvalue⟩ := exists_of_mem_forall₂ hcs hc
    exact hvalue ▸ Source.within_entry hentries he

theorem canonicalAxis_of_made {part : α} {x : Axis α} (hs : source.Shows view part)
    (h : IsAxis source part) (hmade : AxisMade source part x)
    (hshort : ∀ v, field? (entriesOf source part) "values" = some v →
      (view v).isTooLong = false) :
    CanonicalAxis ⟨x.name, x.values.map fun c => (c.1, view c.2)⟩ := by
  obtain @⟨entries, name, values, hentries, -, hname, hholds, hvalues, -⟩ := h
  obtain ⟨piece, hpiece, hlabels⟩ := hmade.name
  obtain ⟨v, hv, hlists⟩ := hmade.values
  rw [entriesOf_map hentries] at hpiece hv hshort
  cases hname.symm.trans hpiece
  cases hvalues.symm.trans hv
  refine ⟨holdsLabel_of_labels hholds hlabels, by simpa using hmade.nonempty, ?_, ?_⟩
  · intro c hc
    obtain ⟨c', hc', rfl⟩ := List.mem_map.mp hc
    exact hmade.texts c' hc'
  · intro c hc
    obtain ⟨c', hc', rfl⟩ := List.mem_map.mp hc
    have hshows := hs.within (Source.within_field hentries hv)
    exact hshows.short_of_within (within_of_lists hlists hc') (hshort values hv)

theorem canonical_of_made {made : Document α} (hs : source.Shows view a)
    (h : IsDocument source a) (hshort : ShortValues source view a) (hmade : Made source a made) :
    Canonical (made.map view) := by
  obtain @⟨entries, title, listed, parts, hentries, -, htitle, hholds, hresult, hlisted, hparts,
    hne, haxes⟩ := h
  obtain ⟨piece, hpiece, hlabels⟩ := hmade.title
  obtain ⟨listed', parts', hlisted', hparts', hmades⟩ := hmade.axes
  have hresults := hmade.resultName
  have hshorts := (shortValues_iff hlisted' hparts').mp hshort
  rw [entriesOf_map hentries] at hpiece hlisted' hresults
  cases htitle.symm.trans hpiece
  cases hlisted.symm.trans hlisted'
  cases hparts.symm.trans hparts'
  refine ⟨holdsLabel_of_labels hholds hlabels, ?_, ?_, ?_⟩
  · intro name hname
    rw [show made.resultName = some name from hname] at hresults
    cases hfield : field? entries "result_name" with
    | none =>
      rw [hfield] at hresults
      cases hresults
    | some piece =>
      rw [hfield] at hresults
      cases hresults with
      | some hlabels => exact holdsLabel_of_labels (hresult piece hfield) hlabels
  · intro hnone
    have hlength := hmades.length_eq
    rw [List.map_eq_nil_iff.mp hnone, List.length_nil, List.length_eq_zero_iff] at hlength
    exact hne hlength
  · intro x hx
    obtain ⟨y, hy, rfl⟩ := List.mem_map.mp hx
    obtain ⟨part, hpart, haxis⟩ := exists_of_mem_forall₂ hmades hy
    have hwithin := (Source.within_field hentries hlisted).trans (Source.within_item hparts hpart)
    exact canonicalAxis_of_made (hs.within hwithin) (haxes part hpart) haxis (hshorts part hpart)

end Data

/-! ## The canonical form -/

/-- A document is what is made of data, viewed as values, and its canonical form passes the check
and is what is made of itself. -/
structure Normal {α : Type} (source : Source α) (view : α → Value) (a : α)
    (doc : Document Value) : Prop where
  made : (ofData source a).map (map view) = .ok doc
  check : schema.check Value.source doc.value = .ok none
  again : ofData Value.source doc.value = .ok doc
  read : ∀ t, read Value.source doc.value t = (.ok doc, t)

/-- Data states a document: its labels and, viewed as values, the values of its candidates. -/
def States {α : Type} (source : Source α) (view : α → Value) (a : α) (doc : Document Value) :
    Prop :=
  ∃ made, Made source a made ∧ made.map view = doc

theorem made_of_states {α : Type} {source : Source α} {view : α → Value} {a : α}
    {doc : Document Value} (h : States source view a doc) :
    (ofData source a).map (map view) = .ok doc := by
  obtain ⟨made, hmade, rfl⟩ := h
  exact map_eq_ok_iff.mpr ⟨made, ofData_of_made hmade, rfl⟩

theorem read_value {doc : Document Value} (h : Canonical doc) (t : Trace) :
    read Value.source doc.value t = (.ok doc, t) := by
  have hshape : Value.source.shape doc.value = .map (entriesInFull doc) := rfl
  rw [read, hshape, check_value h, ofData_of_made (made_value h)]
  rfl

/-- The document of data that passes the check is stated by it and normal. -/
theorem exists_normal {α : Type} {source : Source α} {view : α → Value} {a : α}
    (hs : source.Shows view a) (h : schema.check source a = .ok none) :
    ∃ doc, States source view a doc ∧ Normal source view a doc := by
  obtain ⟨hdocument, hshort⟩ := (check_eq_none_iff_shortValues hs).mp h
  obtain ⟨made, hmade⟩ := exists_made hs hdocument hshort
  have hcanonical := canonical_of_made hs hdocument hshort hmade
  refine ⟨made.map view, ⟨made, hmade, rfl⟩, made_of_states ⟨made, hmade, rfl⟩,
    check_value hcanonical, ofData_of_made (made_value hcanonical), read_value hcanonical⟩

/-- What is loaded from a text is the document of its data. -/
theorem normal_of_load {text : String} {doc : Document Value} {t : Trace}
    (h : (load text t).1 = .ok doc) :
    ∃ d, Data.ofText text.toList = .ok (some d) ∧
      States d.source d.unfold (.node d.root) doc ∧ Normal d.source d.unfold (.node d.root) doc := by
  obtain ⟨outcome, hloads, hrun⟩ := load_spec text
  obtain rfl : outcome = .ok doc := (hrun t).symm.trans h
  cases hloads with
  | trouble e _ _ heq => cases heq
  | failed _ heq => cases heq
  | empty e _ heq => cases heq
  | @read d found htext hread heq =>
    obtain ⟨made, rfl, rfl⟩ := map_eq_ok_iff.mp heq.symm
    cases hread with
    | read _ hcheck hof =>
      obtain ⟨doc, hstates, hnormal⟩ := exists_normal (d.shows _) hcheck
      have hdoc := hnormal.made
      rw [hof] at hdoc
      cases hdoc
      exact ⟨d, htext, hstates, hnormal⟩

/-! ## Forms of candidates -/

/-- The ways to write candidates with some labels and values: as scalars that are named by their
labels, as entries that are named by their keys, and in full. -/
inductive Writes {α : Type} (source : Source α) (view : α → Value) (values : α)
    (cs : List (Value × Value)) : Prop where
  | scalars {parts : List α} (h : source.shape values = .list parts)
    (hcs : List.Forall₂ (fun part c => ∃ s, source.shape part = .scalar s ∧
      (Value.scalar s).named = .ok c.1 ∧ view part = c.2) parts cs)
  | entries {entries : List (Value × α)} (h : source.shape values = .map entries)
    (hcs : List.Forall₂ (fun e c => e.1.named = .ok c.1 ∧ view e.2 = c.2) entries cs)
  | full {parts : List α} (h : source.shape values = .list parts)
    (hcs : List.Forall₂ (fun part c => ∃ entries name s value, source.shape part = .map entries ∧
      field? entries "name" = some name ∧ source.shape name = .scalar s ∧
      (Value.scalar s).named = .ok c.1 ∧ field? entries "value" = some value ∧
      view value = c.2) parts cs)

/-- If each pair of things is tied by a third one that is seen as the second, the third ones are seen
as the second ones. -/
theorem exists_map_of_forall₂ {α β γ : Type} {R : α → β → Prop} {S : α → γ → Prop} {f : β → γ}
    (htie : ∀ x z, S x z → ∃ y, R x y ∧ f y = z) {xs : List α} {zs : List γ}
    (h : List.Forall₂ S xs zs) : ∃ ys, List.Forall₂ R xs ys ∧ ys.map f = zs := by
  induction h with
  | nil => exact ⟨[], .nil, rfl⟩
  | cons hx _ ih =>
    obtain ⟨y, hy, rfl⟩ := htie _ _ hx
    obtain ⟨ys, hys, rfl⟩ := ih
    exact ⟨y :: ys, .cons hy hys, rfl⟩

/-- Candidates written in any of these ways are those of the data. -/
theorem exists_lists_of_writes {α : Type} {source : Source α} {view : α → Value} {values : α}
    {cs : List (Value × Value)} (h : Writes source view values cs) :
    ∃ ps, Lists source values ps ∧ ps.map (fun c => (c.1, view c.2)) = cs := by
  cases h with
  | scalars hparts hcs =>
    obtain ⟨ps, hps, hmap⟩ := exists_map_of_forall₂ (R := Denotes source)
      (f := fun p => (p.1, view p.2)) (by
        rintro part c ⟨s, hs, hname, hvalue⟩
        exact ⟨(c.1, part), .plain hs hname rfl, by rw [hvalue]⟩) hcs
    exact ⟨ps, .items hparts hps, hmap⟩
  | entries hentries hcs =>
    obtain ⟨ps, hps, hmap⟩ := exists_map_of_forall₂
      (R := fun (e p : Value × α) => e.1.named = .ok p.1 ∧ p.2 = e.2)
      (f := fun (p : Value × α) => (p.1, view p.2)) (by
        rintro e c ⟨hname, hvalue⟩
        exact ⟨(c.1, e.2), ⟨hname, rfl⟩, by rw [hvalue]⟩) hcs
    exact ⟨ps, .entries hentries hps, hmap⟩
  | full hparts hcs =>
    obtain ⟨ps, hps, hmap⟩ := exists_map_of_forall₂ (R := Denotes source)
      (f := fun p => (p.1, view p.2)) (by
        rintro part c ⟨entries, name, s, value, hentries, hfield, hs, hname, hvalue, hview⟩
        exact ⟨(c.1, value), .named hentries hfield hs hname hvalue, by rw [hview]⟩) hcs
    exact ⟨ps, .items hparts hps, hmap⟩

/-- In whichever way candidates are written, the same labels and values are read. -/
theorem choicesOf_of_writes {α : Type} {source : Source α} {view : α → Value} {values : α}
    {cs : List (Value × Value)} (h : Writes source view values cs) :
    (choicesOf source values).map (List.map fun c => (c.1, view c.2)) = .ok cs := by
  obtain ⟨ps, hps, rfl⟩ := exists_lists_of_writes h
  exact map_eq_ok_iff.mpr ⟨ps, choicesOf_of_lists hps, rfl⟩

/--
Normalising is idempotent. Data that passes the check, be it that of a text or a value, has a
document, and the canonical form of the document passes the check again and is read as the same
document, with its title, its variables, its candidates with their names and values in order, and
the name of the result; the document that is loaded from a text is of this kind. Candidates are read
alike as scalars, as entries and in full, and two pieces of data that state the same labels and
values have the same canonical form and the same variables.
-/
theorem renormalises :
    (∀ (d : Data) (a : Piece), schema.check d.source a = .ok none →
      ∃ doc, States d.source d.unfold a doc ∧ Normal d.source d.unfold a doc) ∧
    (∀ v : Value, Value.source.Unrolled v → schema.check Value.source v = .ok none →
      ∃ doc, States Value.source id v doc ∧ Normal Value.source id v doc) ∧
    (∀ text t doc, (load text t).1 = .ok doc → ∃ d, Data.ofText text.toList = .ok (some d) ∧
      States d.source d.unfold (.node d.root) doc ∧
        Normal d.source d.unfold (.node d.root) doc) ∧
    (∀ {α : Type} (source : Source α) (view : α → Value) (values : α) (cs : List (Value × Value)),
      Writes source view values cs →
        (choicesOf source values).map (List.map fun c => (c.1, view c.2)) = .ok cs) ∧
    ∀ {α β : Type} {source : Source α} {view : α → Value} {a : α} {source' : Source β}
      {view' : β → Value} {b : β} {doc : Document Value},
      States source view a doc → States source' view' b doc →
        ∃ x y, ofData source a = .ok x ∧ ofData source' b = .ok y ∧
          (x.map view).value = (y.map view').value ∧
          (x.map view).declared = (y.map view').declared := by
  refine ⟨fun d a h => exists_normal (d.shows a) h, fun v hv h => exists_normal (Value.shows hv) h,
    fun text t doc h => normal_of_load h, fun source view values cs h => choicesOf_of_writes h, ?_⟩
  intro α β source view a source' view' b doc ha hb
  obtain ⟨x, hx, hdoc⟩ := map_eq_ok_iff.mp (made_of_states ha)
  obtain ⟨y, hy, hdoc'⟩ := map_eq_ok_iff.mp (made_of_states hb)
  exact ⟨x, y, hx, hy, by rw [hdoc, hdoc'], by rw [hdoc, hdoc']⟩

/-- A document with one candidate is normal, and that candidate can be written in three ways. -/
theorem renormalises_numberData :
    (∃ doc, States (numberData 1).source (numberData 1).unfold (.node 0) doc ∧
      Normal (numberData 1).source (numberData 1).unfold (.node 0) doc) ∧
    ∀ v ∈ [Value.list [.int 1], .map [(.int 1, .int 1)], .list [choiceValue (.text "1", .int 1)]],
      (choicesOf Value.source v).map (List.map fun c => (c.1, id c.2)) =
        .ok [(.text "1", .int 1)] := by
  obtain ⟨hdata, -, -, hwrites, -⟩ := renormalises
  have hshort : Number.isTooLong 1 = false := by decide +kernel
  have hname : Value.named (.int 1) = .ok (.text "1") := by
    simp only [Value.named, Value.isTooLong, Scalar.isTooLong, hshort, Bool.false_eq_true, if_false]
    rfl
  refine ⟨hdata (numberData 1) (.node 0) (check_numberData_iff.mpr hshort), ?_⟩
  simp only [List.forall_mem_cons, List.not_mem_nil, false_implies, implies_true, and_true]
  refine ⟨?_, ?_, ?_⟩
  · exact hwrites _ _ _ _ (.scalars rfl (.cons ⟨.int 1, rfl, hname, rfl⟩ .nil))
  · exact hwrites _ _ _ _ (.entries rfl (.cons ⟨hname, rfl⟩ .nil))
  · exact hwrites _ _ _ _ (.full rfl (.cons
      ⟨_, .text "1", .text "1", .int 1, rfl, rfl, rfl, rfl, rfl, rfl⟩ .nil))

end CaseGrid.Document
