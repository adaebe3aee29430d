import CaseGrid.Proofs.Document.Contents
import CaseGrid.Proofs.Document.Loading
import CaseGrid.Proofs.Yaml.Assigning

/-
  Candidates that are written as a mapping. Where the pairs under `values` have no merge keys, each
  of them is assigned to its key, one after the other, and every entry that comes out is a candidate
  named by its key. Keys of one kind are apart, but keys of two kinds may be alike: the number 1 and
  the truth value are one key, and the value of the first of the two pairs is lost.

  Proved: `load_keeps_iff`, what candidates a document has of such a mapping, and that these are its
  pairs in order just if no two keys are alike. Ingredients: the invariant of the cells, what the
  schema demands of candidates, and the lengths of assignments.
-/

namespace CaseGrid.Document

open Yaml (Cell Data DataState Describes KeysApart Nodes Piece Unlike assignAll)

/-! ## What is under `values` -/

section Values

variable {α : Type} {source : Source α} {a values : α} {n : Nat}

/-- What is written under `values` of the variable at a position. -/
def valuesAt? (source : Source α) (a : α) (n : Nat) : Option α :=
  match (Schema.field? (entriesOf source a) "variables").map source.shape with
  | some (.list parts) =>
    parts[n]?.bind fun part => Schema.field? (entriesOf source part) "values"
  | _ => none

theorem valuesAt?_eq_some_iff :
    valuesAt? source a n = some values ↔ ∃ listed parts part,
      Schema.field? (entriesOf source a) "variables" = some listed ∧
        source.shape listed = .list parts ∧ parts[n]? = some part ∧
          Schema.field? (entriesOf source part) "values" = some values := by
  unfold valuesAt?
  constructor
  · intro h
    split at h
    · rename_i parts hparts
      obtain ⟨listed, hlisted, hshape⟩ := Option.map_eq_some_iff.mp hparts
      obtain ⟨part, hpart, hvalues⟩ := Option.bind_eq_some_iff.mp h
      exact ⟨listed, parts, part, hlisted, hshape, hpart, hvalues⟩
    · cases h
  · rintro ⟨listed, parts, part, hlisted, hshape, hpart, hvalues⟩
    rw [hlisted, Option.map_some, hshape]
    exact Option.bind_eq_some_iff.mpr ⟨part, hpart, hvalues⟩

/-- The candidates of a variable are read from what is under its `values`. -/
theorem choices_of_valuesAt? {d : Document α} {x : Axis α} (h : ofData source a = .ok d)
    (hx : d.axes[n]? = some x) (hvalues : valuesAt? source a n = some values) :
    choicesOf source values = .ok x.values := by
  obtain ⟨listed, parts, part, hlisted, hshape, hpart, hfield⟩ := valuesAt?_eq_some_iff.mp hvalues
  have haxes := (ofData_eq_ok_iff.mp h).2.1
  rw [axesOf, hlisted, Option.map_some, hshape] at haxes
  obtain ⟨_, hget⟩ := List.forall₂_iff_get.mp (mapM_eq_ok_iff.mp haxes)
  obtain ⟨hlt, rfl⟩ := List.getElem?_eq_some_iff.mp hpart
  obtain ⟨hlt', rfl⟩ := List.getElem?_eq_some_iff.mp hx
  have hof : valuesOf source parts[n] = .ok d.axes[n].values :=
    (axisOf_eq_ok_iff.mp (hget n hlt hlt')).2
  rwa [valuesOf, hfield] at hof

theorem candidates_of_valuesAt? (h : IsDocument source a)
    (hvalues : valuesAt? source a n = some values) : AreCandidates source values := by
  obtain ⟨listed, parts, part, hlisted, hshape, hpart, hfield⟩ := valuesAt?_eq_some_iff.mp hvalues
  obtain ⟨hentries, -, -, -, -, hvariables, hparts, -, haxes⟩ := h
  rw [entriesOf_map hentries, hvariables] at hlisted
  cases hlisted
  cases hparts.symm.trans hshape
  obtain ⟨hentries, -, -, -, hcandidates, h⟩ := haxes part (List.mem_of_getElem? hpart)
  rw [entriesOf_map hentries, hcandidates] at hfield
  cases hfield
  exact h

end Values

/-! ## The cell of a mapping -/

/-- No cell stands for one around it. -/
theorem unrolled (data : Data) {piece : Piece} : data.source.Unrolled piece := by
  intro p _ c h
  rw [show data.source.shape p = data.shape p from rfl] at h
  cases p with
  | pair _ _ _ _ => cases h
  | node i =>
    rw [Data.shape_node] at h
    split at h <;> cases h

/-- Of a mapping, only entries made of its pairs are candidates. -/
theorem describes_of_candidates {nodes : Nodes} {s : DataState} {data : Data} {i : Nat}
    {pairs : List (Nat × Nat)} (hsound : Yaml.Sound nodes s) (hcells : s.cells = data.cells)
    (h : AreCandidates data.source (.node i))
    (hpairs : (nodes.node i).content = .mapping pairs) (hmerge : ¬ nodes.HasMerge i) :
    ∃ entries, data.shape (.node i) = .map (entries.map fun e => (.scalar e.1, .node e.2)) ∧
      Describes s pairs entries := by
  have hbuilt (c : Cell) (hc : (data.cells[i]?).join = some c) : Yaml.Built nodes s i c :=
    hsound.built i c (by rw [DataState.cell?, hcells, hc])
  have hnot (js : List Nat) : (nodes.node i).content ≠ .sequence js := by
    intro h
    cases hpairs.symm.trans h
  -- A collection with something in it was filled: lists from a sequence, entries from the pairs.
  cases h with
  | items hshape hne hitems =>
    rw [show data.source.shape (.node i) = data.shape (.node i) from rfl, Data.shape_node] at hshape
    clear hitems
    split at hshape <;> cases hshape
    all_goals
      rename_i hc
      rcases hbuilt _ hc with rfl | ⟨js, hjs⟩
      · exact absurd rfl hne
      · exact absurd hjs (hnot js)
  | entries hshape hne =>
    rw [show data.source.shape (.node i) = data.shape (.node i) from rfl, Data.shape_node] at hshape
    rw [Data.shape_node]
    split at hshape <;> cases hshape
    rename_i entries hc
    rcases (hbuilt _ hc).2 with rfl | hdescribes
    · exact absurd rfl hne
    · exact ⟨entries, rfl, hdescribes pairs hpairs hmerge⟩

/-! ## Candidates that are kept -/

/-- A candidate that is named by a key and has the value of a node. -/
def Names (data : Data) (key : Scalar) (i : Nat) (c : Value × Value) : Prop :=
  (Value.scalar key).named = .ok c.1 ∧ c.2 = data.unfold (.node i)

/-- Candidates that are some pairs in order: each is named by the key of its pair and has the value
beside it. -/
def Kept (data : Data) (pairs : List (Nat × Nat)) (values : List (Value × Value)) : Prop :=
  List.Forall₂ (fun p c => ∃ k, data.shape (.node p.1) = .scalar k ∧ Names data k p.2 c) pairs values

theorem kept_of_names {data : Data} {pairs : List (Nat × Nat)} {keys : List Scalar}
    {values : List (Value × Value)}
    (hkeys : List.Forall₂ (fun p k => data.shape (.node p.1) = .scalar k) pairs keys)
    (h : List.Forall₂ (fun e c => Names data e.1 e.2 c) (keys.zip (pairs.map (·.2))) values) :
    Kept data pairs values := by
  induction hkeys generalizing values with
  | nil =>
    cases h
    exact .nil
  | cons hk _ ih =>
    cases h with
    | cons hname h => exact .cons ⟨_, hk, hname⟩ (ih h)

/-- The candidates of a mapping are its entries, each named by its key. -/
theorem names_of_choicesOf {data : Data} {p : Piece} {entries : List (Scalar × Nat)}
    {values : List (Value × Piece)}
    (hshape : data.shape p = .map (entries.map fun e => (.scalar e.1, .node e.2)))
    (h : choicesOf data.source p = .ok values) :
    List.Forall₂ (fun e c => Names data e.1 e.2 c) entries
      (values.map fun c => (c.1, data.unfold c.2)) := by
  rw [choicesOf, show data.source.shape p = _ from hshape] at h
  rw [List.forall₂_map_right_iff]
  refine (List.forall₂_map_left_iff.mp (mapM_eq_ok_iff.mp h)).imp fun e c hc => ?_
  obtain ⟨name, hname, rfl⟩ := map_eq_ok_iff.mp hc
  exact ⟨hname, rfl⟩

/-! ## Documents of texts -/

/-- The data of a text, and the pairs that the candidates of the variable at a position are written
with, if they are written as a mapping without merge keys. -/
def mappingAt? (text : String) (n : Nat) : Option (Data × List (Nat × Nat)) :=
  match nodesOf text with
  | .ok (nodes, some root) =>
    match Data.ofNodes nodes root with
    | .ok data =>
      match valuesAt? data.source (.node data.root) n with
      | some (.node i) =>
        match (nodes.node i).content with
        | .mapping pairs =>
          if pairs.any (Yaml.Merge.isMerge nodes) then none else some (data, pairs)
        | _ => none
      | _ => none
    | .error _ => none
  | _ => none

theorem exists_of_mappingAt? {text : String} {n : Nat} {data : Data} {pairs : List (Nat × Nat)}
    (h : mappingAt? text n = some (data, pairs)) :
    ∃ nodes root i, nodesOf text = .ok (nodes, some root) ∧
      Data.ofNodes nodes root = .ok data ∧
      valuesAt? data.source (.node data.root) n = some (.node i) ∧
      (nodes.node i).content = .mapping pairs ∧ ¬ nodes.HasMerge i := by
  unfold mappingAt? at h
  split at h
  case h_2 => cases h
  rename_i nodes root hnodes
  split at h
  case h_2 => cases h
  rename_i data' hdata
  split at h
  case h_2 => cases h
  rename_i i hvalues
  split at h
  case h_2 => cases h
  rename_i pairs' hcontent
  split at h
  · cases h
  · rename_i hplain
    cases h
    refine ⟨nodes, root, i, hnodes, hdata, hvalues, hcontent, ?_⟩
    rintro ⟨pairs', hpairs', p, hp, htag⟩
    rw [hcontent] at hpairs'
    cases hpairs'
    have hisMerge : Yaml.Merge.isMerge nodes p = true := by
      rw [Yaml.Merge.isMerge, htag]
      exact beq_self_eq_true _
    exact hplain (List.any_eq_true.mpr ⟨p, hp, hisMerge⟩)

/-- A text that was loaded has data that keeps the schema, and the document is read from it. -/
theorem exists_of_load {text : String} {t : Trace} {d : Document Value}
    (h : (load text t).1 = .ok d) :
    ∃ nodes root data d₀, nodesOf text = .ok (nodes, some root) ∧
      Data.ofNodes nodes root = .ok data ∧
      schema.check data.source (.node data.root) = .ok none ∧
      ofData data.source (.node data.root) = .ok d₀ ∧ d = d₀.map data.unfold := by
  obtain ⟨outcome, hloads, hrun⟩ := load_spec text
  obtain rfl : outcome = .ok d := (hrun t).symm.trans h
  cases hloads with
  | trouble _ _ _ heq => cases heq
  | failed _ heq => cases heq
  | empty _ _ heq => cases heq
  | read htext hread heq =>
    obtain ⟨d₀, rfl, rfl⟩ := map_eq_ok_iff.mp heq.symm
    obtain ⟨nodes, root, hnodes, hdata⟩ := nodesOf_of_ofText htext
    cases hread with
    | read _ hcheck hof => exact ⟨nodes, root, _, d₀, hnodes, hdata, hcheck, hof, rfl⟩

/--
Of a mapping without merge keys a document has these candidates: its pairs are assigned to their
keys one after the other, and each entry is named by its key. Keys of one kind are apart. The
candidates are the pairs in order just if no two keys are alike, of whatever kind they are.
-/
theorem load_keeps_iff {text : String} {t : Trace} {d : Document Value} {n : Nat} {x : Axis Value}
    {data : Data} {pairs : List (Nat × Nat)} (h : (load text t).1 = .ok d)
    (hx : d.axes[n]? = some x) (hpairs : mappingAt? text n = some (data, pairs)) :
    ∃ keys, List.Forall₂ (fun p k => data.shape (.node p.1) = .scalar k) pairs keys ∧
      KeysApart keys ∧
      List.Forall₂ (fun e c => Names data e.1 e.2 c) (assignAll [] keys (pairs.map (·.2)))
        x.values ∧
      (Kept data pairs x.values ↔ Unlike keys) := by
  obtain ⟨nodes, root, i, hnodes, hdata, hvalues, hcontent, hmerge⟩ := exists_of_mappingAt? hpairs
  obtain ⟨nodes', root', data', d₀, hnodes', hdata', hcheck, hof, rfl⟩ := exists_of_load h
  cases hnodes.symm.trans hnodes'
  cases hdata.symm.trans hdata'
  obtain ⟨-, s, hsound, hcells⟩ := Yaml.sound_of_ofNodes (Yaml.closed_of_ofEvents hnodes) hdata
  have hdocument := ((check_schema_iff (unrolled data)).mp hcheck).1
  obtain ⟨entries, hshape, keys, hkeys, hapart, rfl⟩ :=
    describes_of_candidates hsound hcells (candidates_of_valuesAt? hdocument hvalues) hcontent hmerge
  -- The variable of the document is one of the data, with the values of its candidates in place.
  rw [map, List.getElem?_map] at hx
  obtain ⟨x₀, hx₀, rfl⟩ := Option.map_eq_some_iff.mp hx
  have hnames := names_of_choicesOf hshape (choices_of_valuesAt? hof hx₀ hvalues)
  have hscalars : List.Forall₂ (fun p k => data.shape (.node p.1) = .scalar k) pairs keys := by
    refine hkeys.imp fun p k hk => ?_
    rw [DataState.cell?, hcells] at hk
    rw [Data.shape_node, hk]
  refine ⟨keys, hscalars, hapart, hnames, fun hkept => ?_, fun hunlike => ?_⟩
  · have hlength : (assignAll [] keys (pairs.map (·.2))).length = keys.length := by
      rw [hnames.length_eq, ← hkept.length_eq, hscalars.length_eq]
    exact Yaml.unlike_of_length (by rw [List.length_map, hscalars.length_eq]) hlength
  · rw [Yaml.assignAll_of_unlike hunlike (by simp), List.nil_append] at hnames
    exact kept_of_names hscalars hnames

/-- Whether the candidates of the variable at a position are written with so many pairs, and so
many of them are read. -/
def hasSizes (text : String) (n written read : Nat) : Bool :=
  match (load text default).1, mappingAt? text n with
  | .ok d, some (_, pairs) =>
    match d.axes[n]? with
    | some x => pairs.length == written && x.values.length == read
    | none => false
  | _, _ => false

theorem exists_of_hasSizes {text : String} {n written read : Nat}
    (h : hasSizes text n written read = true) :
    ∃ d x data pairs, (load text default).1 = .ok d ∧ d.axes[n]? = some x ∧
      mappingAt? text n = some (data, pairs) ∧ pairs.length = written ∧ x.values.length = read := by
  unfold hasSizes at h
  split at h
  case h_2 => cases h
  rename_i d data pairs hload hpairs
  split at h
  case h_2 => cases h
  rename_i x hx
  obtain ⟨hwritten, hread⟩ := Bool.and_eq_true_iff.mp h
  exact ⟨d, x, data, pairs, hload, hx, hpairs, of_decide_eq_true hwritten, of_decide_eq_true hread⟩

/-- A document whose candidates are a mapping with two keys that are texts. -/
def textKeysText : String :=
  "title: t\nvariables:\n  - name: v\n    values: \x7ba: 1, b: 2\x7d\n"

/-- Both candidates of that document are kept. -/
theorem load_keeps_textKeysText :
    ∃ d x data pairs, (load textKeysText default).1 = .ok d ∧ d.axes[0]? = some x ∧
      mappingAt? textKeysText 0 = some (data, pairs) ∧ pairs.length = 2 ∧
        Kept data pairs x.values := by
  have hsizes : hasSizes textKeysText 0 2 2 = true := by decide +kernel
  obtain ⟨d, x, data, pairs, hload, hx, hpairs, hwritten, hread⟩ := exists_of_hasSizes hsizes
  obtain ⟨keys, hkeys, -, hnames, hiff⟩ := load_keeps_iff hload hx hpairs
  have hlength : keys.length = 2 := by rw [← hkeys.length_eq, hwritten]
  have hentries : (assignAll [] keys (pairs.map (·.2))).length = keys.length := by
    rw [hnames.length_eq, hread, hlength]
  have hunlike : Unlike keys :=
    Yaml.unlike_of_length (by rw [List.length_map, hwritten, hlength]) hentries
  exact ⟨d, x, data, pairs, hload, hx, hpairs, hwritten, hiff.mpr hunlike⟩

/-- A document whose candidates are a mapping with the number 1 and the truth value as keys. -/
def alikeKeysText : String :=
  "title: t\nvariables:\n  - name: v\n    values: \x7b1: a, true: b\x7d\n"

/-- That document is loaded with one candidate for the two pairs. -/
theorem not_kept_alikeKeysText :
    ∃ d x data pairs, (load alikeKeysText default).1 = .ok d ∧ d.axes[0]? = some x ∧
      mappingAt? alikeKeysText 0 = some (data, pairs) ∧ ¬ Kept data pairs x.values := by
  have hsizes : hasSizes alikeKeysText 0 2 1 = true := by decide +kernel
  obtain ⟨d, x, data, pairs, hload, hx, hpairs, hwritten, hread⟩ := exists_of_hasSizes hsizes
  refine ⟨d, x, data, pairs, hload, hx, hpairs, fun hkept => ?_⟩
  have hlength := hkept.length_eq
  omega

end CaseGrid.Document
