import CaseGrid.Document.Load
import CaseGrid.Proofs.Except
import CaseGrid.Proofs.Value.Texts

/-
  Reading documents. Every name in a document that was read is a text, and the only fault of
  reading is a whole number that is too long to be written. Loading only writes to the log, so
  how it ends does not depend on what was before.

  Proved: `read_spec` and `load_spec`, how reading data and loading a text end, one case for each
  way, which all that is proved about loading goes by; `labelled_of_ofData` for the names; and
  `load_ends`, the ways in which loading ends as its callers see them.
-/

namespace CaseGrid

theorem Value.isText_of_named {v w : Value} (h : v.named = .ok w) : w.IsText := by
  unfold named at h
  split at h
  · cases h
    exact ⟨_, rfl⟩
  · split at h
    · cases h
    · cases h
      exact isText_text _

namespace Document

section Labels

variable {α : Type} {source : Source α} {a : α}

theorem isText_of_label {w : Value} (h : source.label a = .ok w) : w.IsText := by
  unfold Source.label at h
  split at h
  · exact Value.isText_of_named h
  · obtain ⟨s, -, rfl⟩ := map_eq_ok_iff.mp h
    exact Value.isText_text s

theorem isText_of_labelAt? {key : String} {w : Value} (h : labelAt? source a key = .ok (some w)) :
    w.IsText := by
  unfold labelAt? at h
  split at h
  · obtain ⟨v, hv, heq⟩ := map_eq_ok_iff.mp h
    cases heq
    exact isText_of_label hv
  · cases h

theorem isText_of_labelAt {key : String} {w : Value} (h : labelAt source a key = .ok w) :
    w.IsText := by
  obtain ⟨label, hlabel, rfl⟩ := map_eq_ok_iff.mp h
  cases label with
  | none => exact Value.isText_text _
  | some v => exact isText_of_labelAt? hlabel

theorem isText_of_choiceOf {c : Value × α} (h : choiceOf source a = .ok c) : c.1.IsText := by
  unfold choiceOf at h
  split at h
  · obtain ⟨name, hname, rfl⟩ := map_eq_ok_iff.mp h
    exact isText_of_labelAt hname
  · obtain ⟨name, hname, rfl⟩ := map_eq_ok_iff.mp h
    exact isText_of_label hname

theorem isText_of_choicesOf {cs : List (Value × α)} (h : choicesOf source a = .ok cs) :
    ∀ c ∈ cs, c.1.IsText := by
  intro c hc
  unfold choicesOf at h
  split at h
  · obtain ⟨e, -, he⟩ := exists_of_mem_mapM h hc
    obtain ⟨name, hname, rfl⟩ := map_eq_ok_iff.mp he
    exact Value.isText_of_named hname
  · obtain ⟨part, -, hpart⟩ := exists_of_mem_mapM h hc
    exact isText_of_choiceOf hpart
  · cases h
    cases hc

end Labels

/-- Every name in a document is a text. -/
structure Labelled {α : Type} (d : Document α) : Prop where
  title : d.title.IsText
  axes : ∀ x ∈ d.axes, x.name.IsText ∧ ∀ c ∈ x.values, c.1.IsText
  resultName : ∀ name ∈ d.resultName, name.IsText

section Reading

variable {α : Type} {source : Source α} {a : α}

theorem axisOf_eq_ok_iff {x : Axis α} :
    axisOf source a = .ok x ↔
      labelAt source a "name" = .ok x.name ∧ valuesOf source a = .ok x.values := by
  rw [axisOf, bind_eq_ok_iff]
  constructor
  · rintro ⟨name, hname, h⟩
    obtain ⟨values, hvalues, h⟩ := bind_eq_ok_iff.mp h
    cases h
    exact ⟨hname, hvalues⟩
  · rintro ⟨hname, hvalues⟩
    exact ⟨_, hname, bind_eq_ok_iff.mpr ⟨_, hvalues, rfl⟩⟩

theorem ofData_eq_ok_iff {d : Document α} :
    ofData source a = .ok d ↔ labelAt source a "title" = .ok d.title ∧
      axesOf source a = .ok d.axes ∧ labelAt? source a "result_name" = .ok d.resultName := by
  rw [ofData, bind_eq_ok_iff]
  constructor
  · rintro ⟨title, htitle, h⟩
    obtain ⟨axes, haxes, h⟩ := bind_eq_ok_iff.mp h
    obtain ⟨resultName, hresult, h⟩ := bind_eq_ok_iff.mp h
    cases h
    exact ⟨htitle, haxes, hresult⟩
  · rintro ⟨htitle, haxes, hresult⟩
    exact ⟨_, htitle, bind_eq_ok_iff.mpr ⟨_, haxes, bind_eq_ok_iff.mpr ⟨_, hresult, rfl⟩⟩⟩

theorem isText_of_axisOf {x : Axis α} (h : axisOf source a = .ok x) :
    x.name.IsText ∧ ∀ c ∈ x.values, c.1.IsText := by
  obtain ⟨hname, hvalues⟩ := axisOf_eq_ok_iff.mp h
  refine ⟨isText_of_labelAt hname, ?_⟩
  unfold valuesOf at hvalues
  split at hvalues
  · exact isText_of_choicesOf hvalues
  · rw [← Except.ok.inj hvalues]
    simp

theorem labelled_of_ofData {d : Document α} (h : ofData source a = .ok d) : d.Labelled := by
  obtain ⟨htitle, haxes, hresult⟩ := ofData_eq_ok_iff.mp h
  refine ⟨isText_of_labelAt htitle, fun x hx => ?_, fun name hname => ?_⟩
  · unfold axesOf at haxes
    split at haxes
    · obtain ⟨part, -, hpart⟩ := exists_of_mem_mapM haxes hx
      exact isText_of_axisOf hpart
    · rw [← Except.ok.inj haxes] at hx
      cases hx
  · rw [Option.mem_def] at hname
    rw [hname] at hresult
    exact isText_of_labelAt? hresult

theorem Labelled.map {β : Type} {d : Document α} (h : d.Labelled) (f : α → β) :
    (d.map f).Labelled := by
  refine ⟨h.title, fun x hx => ?_, h.resultName⟩
  obtain ⟨y, hy, rfl⟩ := List.mem_map.mp hx
  obtain ⟨hname, hvalues⟩ := h.axes y hy
  refine ⟨hname, fun c hc => ?_⟩
  obtain ⟨e, he, rfl⟩ := List.mem_map.mp hc
  exact hvalues e he

end Reading

/-! ## How loading ends -/

/-- How the reading of data ends. -/
inductive Reads {α : Type} (source : Source α) (a : α) : Except Failure (Document α) → Prop where
  | notMapping (e : SpecificationError) (h : ∀ entries, source.shape a ≠ .map entries) :
    Reads source a (.error (.specification e))
  | unchecked {entries : List (Value × α)} {e : Fault} (hmap : source.shape a = .map entries)
    (h : schema.check source a = .error e) : Reads source a (.error (.fault e))
  | refused {entries : List (Value × α)} {r : Report} (e : SpecificationError)
    (hmap : source.shape a = .map entries) (h : schema.check source a = .ok (some r)) :
    Reads source a (.error (.specification e))
  | unread {entries : List (Value × α)} {e : Fault} (hmap : source.shape a = .map entries)
    (hcheck : schema.check source a = .ok none) (h : ofData source a = .error e) :
    Reads source a (.error (.fault e))
  | read {entries : List (Value × α)} {d : Document α} (hmap : source.shape a = .map entries)
    (hcheck : schema.check source a = .ok none) (h : ofData source a = .ok d) :
    Reads source a (.ok d)

theorem read_spec {α : Type} (source : Source α) (a : α) :
    ∃ outcome, Reads source a outcome ∧ ∀ t, (read source a t).1 = outcome := by
  unfold read
  match hshape : source.shape a with
  | .map entries =>
    cases hcheck : schema.check source a with
    | error e => exact ⟨_, .unchecked hshape hcheck, fun _ => rfl⟩
    | ok found =>
      cases found with
      | some r => exact ⟨_, .refused _ hshape hcheck, fun _ => rfl⟩
      | none =>
        cases hdata : ofData source a with
        | error e => exact ⟨_, .unread hshape hcheck hdata, fun _ => rfl⟩
        | ok d => exact ⟨_, .read hshape hcheck hdata, fun _ => rfl⟩
  | .scalar _ | .list _ | .tuple _ | .set _ | .again _ =>
    refine ⟨_, .notMapping _ fun entries h => ?_, fun _ => rfl⟩
    cases hshape.symm.trans h

/-- How the loading of a text ends. -/
inductive Loads (text : String) (outcome : Except Failure (Document Value)) : Prop where
  | trouble {trouble : Yaml.Trouble} (e : SpecificationError)
    (h : Yaml.Data.ofText text.toList = .error trouble)
    (hfound : ∀ why message, trouble ≠ .failed why message)
    (heq : outcome = .error (.specification e))
  | failed {why : Yaml.Breakdown} {message : String}
    (h : Yaml.Data.ofText text.toList = .error (.failed why message))
    (heq : outcome = .error (.other why.kind message))
  | empty (e : SpecificationError) (h : Yaml.Data.ofText text.toList = .ok none)
    (heq : outcome = .error (.specification e))
  | read {data : Yaml.Data} {found : Except Failure (Document Yaml.Piece)}
    (h : Yaml.Data.ofText text.toList = .ok (some data))
    (hread : Reads data.source (.node data.root) found)
    (heq : outcome = found.map (Document.map data.unfold))

/-- Loading writes to the log only, so how it ends does not depend on what was before. -/
theorem load_spec (text : String) :
    ∃ outcome, Loads text outcome ∧ ∀ t, (load text t).1 = outcome := by
  unfold load
  match htext : Yaml.Data.ofText text.toList with
  | .error (.character _ _) => exact ⟨_, .trouble _ htext nofun rfl, fun _ => rfl⟩
  | .error (.found _ _ _ _ _) => exact ⟨_, .trouble _ htext nofun rfl, fun _ => rfl⟩
  | .error (.failed why message) => exact ⟨_, .failed htext rfl, fun _ => rfl⟩
  | .ok none => exact ⟨_, .empty _ htext rfl, fun _ => rfl⟩
  | .ok (some data) =>
    obtain ⟨found, hread, hrun⟩ := read_spec data.source (.node data.root)
    refine ⟨_, .read htext hread rfl, fun t => ?_⟩
    dsimp only
    match hstep : read data.source (.node data.root) t with
    | (.ok d, t') =>
      rw [Session.bind_run_ok hstep, ← hrun t, hstep]
      rfl
    | (.error f, t') =>
      rw [Session.bind_run_error hstep, ← hrun t, hstep]
      rfl

/-- Reading data that ends with a document leaves nothing behind. -/
theorem read_steady {α : Type} {source : Source α} {a : α} {d : Document α} {t t' : Trace}
    (h : read source a t = (.ok d, t')) (u : Trace) : read source a u = (.ok d, u) := by
  revert h
  unfold read
  match source.shape a with
  | .map _ =>
    match schema.check source a with
    | .error _ => exact nofun
    | .ok (some _) => exact nofun
    | .ok none =>
      match ofData source a with
      | .error _ => exact nofun
      | .ok d' =>
        intro h
        cases h
        rfl
  | .scalar _ | .list _ | .tuple _ | .set _ | .again _ => exact nofun

/-- Loading that ends with a document leaves nothing behind. -/
theorem load_steady {text : String} {d : Document Value} {t t' : Trace}
    (h : load text t = (.ok d, t')) (u : Trace) : load text u = (.ok d, u) := by
  unfold load at h ⊢
  match htext : Yaml.Data.ofText text.toList with
  | .error (.character _ _) | .error (.found _ _ _ _ _) | .error (.failed _ _) | .ok none =>
    rw [htext] at h
    cases h
  | .ok (some data) =>
    rw [htext] at h
    obtain ⟨d₀, _, hread, h⟩ := Session.bind_eq_ok h
    cases h
    exact Session.bind_run_ok (read_steady hread u)

/-- What reading data ends with, whatever was before. -/
inductive Ends {α : Type} (x : Session (Document α)) : Except Failure (Document α) → Prop where
  | read {d : Document α} (hd : d.Labelled) (h : ∀ t, (x t).1 = .ok d) : Ends x (.ok d)
  | refused (e : SpecificationError) (h : ∀ t, (x t).1 = .error (.specification e)) :
    Ends x (.error (.specification e))
  | broken (why : Yaml.Breakdown) (message : String)
    (h : ∀ t, (x t).1 = .error (.other why.kind message)) :
    Ends x (.error (.other why.kind message))
  | fault (e : Fault) (h : ∀ t, (x t).1 = .error (.fault e)) : Ends x (.error (.fault e))

theorem Ends.outcome {α : Type} {x : Session (Document α)} {outcome : Except Failure (Document α)}
    (h : Ends x outcome) (t : Trace) : (x t).1 = outcome := by
  cases h with
  | read _ h => exact h t
  | refused _ h => exact h t
  | broken _ _ h => exact h t
  | fault _ h => exact h t

/-- Loading a text ends with a document, a malformed scenario, what broke the reading of the text
off, or a fault. -/
theorem load_ends (text : String) : ∃ outcome, Ends (load text) outcome := by
  obtain ⟨outcome, hloads, hrun⟩ := load_spec text
  cases hloads with
  | trouble e _ _ heq => exact ⟨_, .refused e fun t => (hrun t).trans heq⟩
  | @failed why message _ heq => exact ⟨_, .broken why message fun t => (hrun t).trans heq⟩
  | empty e _ heq => exact ⟨_, .refused e fun t => (hrun t).trans heq⟩
  | @read data found _ hread heq =>
    cases hread with
    | notMapping e _ => exact ⟨_, .refused e fun t => (hrun t).trans heq⟩
    | @unchecked _ e _ _ => exact ⟨_, .fault e fun t => (hrun t).trans heq⟩
    | refused e _ _ => exact ⟨_, .refused e fun t => (hrun t).trans heq⟩
    | @unread _ e _ _ _ => exact ⟨_, .fault e fun t => (hrun t).trans heq⟩
    | read _ _ h =>
      exact ⟨_, .read ((labelled_of_ofData h).map data.unfold) fun t => (hrun t).trans heq⟩

end Document

end CaseGrid
