import CaseGrid.Proofs.Document.Making

/-
  What loading makes of data that keeps the schema: where the schema finds no error, each name that
  the reader asks for is there and can be shown, and there is one candidate for each item or entry,
  in order. Looking for errors shows the candidates of each variable, so that a number among them
  with too many digits breaks the check off.

  Proved: `load_normalises`, which data passes, how the loading of other documents ends, and what a
  document has that was loaded; and that a number with too many digits may stand in a document that
  is as the schema wants it (`unchecked_longNumber`).
-/

namespace CaseGrid

namespace Document

open Schema (field?)
open Yaml (Data Piece)

/-! ## What passes the check -/

section Data

variable {d : Data} {a : Piece}

/-- The candidates of each variable of some data have no number with too many digits. -/
def ValuesShort (d : Data) (a : Piece) : Prop :=
  ∀ n v, valuesAt? d.source a n = some v → (d.unfold v).isTooLong = false

/-- Just these data pass: documents with short candidates. -/
theorem check_eq_none_iff_isDocument :
    schema.check d.source a = .ok none ↔ IsDocument d.source a ∧ ValuesShort d a :=
  check_eq_none_iff_shortValues (d.shows a)

/-- Of a document with a number that is too long the check breaks off. -/
theorem check_eq_numberTooLong (h : IsDocument d.source a) (hlong : ¬ ValuesShort d a) :
    schema.check d.source a = .error .numberTooLong := by
  match hcheck : schema.check d.source a with
  | .error e =>
    rw [Data.eq_numberTooLong_of_unshown (Schema.unshown_of_check hcheck)]
  | .ok none => exact absurd (check_eq_none_iff_isDocument.mp hcheck).2 hlong
  | .ok (some _) => exact absurd h.valid (not_valid_of_check hcheck)

theorem exists_ofData (h : IsDocument d.source a) (hshort : ValuesShort d a) :
    ∃ doc, ofData d.source a = .ok doc ∧ Made d.source a doc := by
  obtain ⟨doc, hmade⟩ := exists_made (d.shows a) h hshort
  exact ⟨doc, ofData_of_made hmade, hmade⟩

end Data

/-! ## What loading ends with -/

theorem IsDocument.exists_map {α : Type} {source : Source α} {a : α} (h : IsDocument source a) :
    ∃ entries, source.shape a = .map entries := by
  obtain ⟨hentries, _, _, _, _, _, _, _, _⟩ := h
  exact ⟨_, hentries⟩

theorem Reads.of_ofData {α : Type} {source : Source α} {a : α}
    {outcome : Except Failure (Document α)} {entries : List (Value × α)} {doc : Document α}
    (h : Reads source a outcome) (hmap : source.shape a = .map entries)
    (hcheck : schema.check source a = .ok none) (hdoc : ofData source a = .ok doc) :
    outcome = .ok doc := by
  cases h with
  | notMapping _ hother => exact absurd hmap (hother entries)
  | unchecked _ h => cases h.symm.trans hcheck
  | refused _ _ h => cases h.symm.trans hcheck
  | unread _ _ h => cases h.symm.trans hdoc
  | read _ _ h =>
    cases h.symm.trans hdoc
    rfl

/--
Data of a text passes the check just if it is a document whose candidates have no number with too
many digits. It is then loaded, with its title, its variables in order, and of each variable the
candidates in order, at least one and all with a text as name. Of a document with such a number the
check breaks off; and a text without data is not loaded.
-/
theorem load_normalises (text : String) (t : Trace) :
    (∀ d, Data.ofText text.toList = .ok (some d) →
      (schema.check d.source (.node d.root) = .ok none ↔
        IsDocument d.source (.node d.root) ∧ ValuesShort d (.node d.root)) ∧
      (IsDocument d.source (.node d.root) → ValuesShort d (.node d.root) →
        ∃ doc, (load text t).1 = .ok (doc.map d.unfold) ∧ Made d.source (.node d.root) doc) ∧
      (IsDocument d.source (.node d.root) → ¬ ValuesShort d (.node d.root) →
        (load text t).1 = .error (.fault .numberTooLong)) ∧
      (¬ IsDocument d.source (.node d.root) → ¬ ∃ doc, (load text t).1 = .ok doc)) ∧
    (Data.ofText text.toList = .ok none → ∃ e, (load text t).1 = .error (.specification e)) := by
  obtain ⟨outcome, hloads, hrun⟩ := load_spec text
  rw [hrun t]
  refine ⟨fun d htext => ⟨check_eq_none_iff_isDocument, fun h hshort => ?_, fun h hlong => ?_,
    fun hnot => ?_⟩, hloads.of_empty⟩
  · obtain ⟨doc, hdoc, hmade⟩ := exists_ofData h hshort
    obtain ⟨entries, hentries⟩ := h.exists_map
    have hcheck := check_eq_none_iff_isDocument.mpr ⟨h, hshort⟩
    obtain ⟨found, hread, rfl⟩ := hloads.of_data htext
    exact ⟨doc, by rw [hread.of_ofData hentries hcheck hdoc]; rfl, hmade⟩
  · have hcheck := check_eq_numberTooLong h hlong
    obtain ⟨entries, hentries⟩ := h.exists_map
    exact hloads.of_untold htext (.checked hentries hcheck)
  · rintro ⟨doc, rfl⟩
    obtain ⟨found, hread, heq⟩ := hloads.of_data htext
    obtain ⟨_, rfl, -⟩ := map_eq_ok_iff.mp heq.symm
    cases hread with
    | read _ hcheck _ => exact hnot (check_eq_none_iff_isDocument.mp hcheck).1

/-- Whether a text has data that passes the check. -/
def passes (text : String) : Bool :=
  match Data.ofText text.toList with
  | .ok (some d) =>
    match schema.check d.source (.node d.root) with
    | .ok none => true
    | _ => false
  | _ => false

theorem exists_of_passes {text : String} (h : passes text = true) :
    ∃ d, Data.ofText text.toList = .ok (some d) ∧
      schema.check d.source (.node d.root) = .ok none := by
  unfold passes at h
  split at h
  case h_2 => cases h
  rename_i d hd
  split at h
  case h_2 => cases h
  rename_i hcheck
  exact ⟨d, hd, hcheck⟩

/-- A document with candidates of all kinds: scalars, named ones, and entries. -/
def mixedText : String :=
  "title: t\nvariables:\n  - \x7bname: v, values: [1, \x7bname: yes, value: a\x7d]\x7d\n" ++
    "  - \x7bname: w, values: \x7b2: b\x7d\x7d\n"

/-- That document is loaded with what it is made of. -/
theorem load_normalises_mixedText :
    ∃ d doc, Data.ofText mixedText.toList = .ok (some d) ∧
      schema.check d.source (.node d.root) = .ok none ∧
      (load mixedText default).1 = .ok (doc.map d.unfold) ∧
      Made d.source (.node d.root) doc := by
  have hpasses : passes mixedText = true := by decide +kernel
  obtain ⟨d, hd, hcheck⟩ := exists_of_passes hpasses
  obtain ⟨hiff, hread, -, -⟩ := (load_normalises mixedText default).1 d hd
  obtain ⟨h, hshort⟩ := hiff.mp hcheck
  obtain ⟨doc, hload, hmade⟩ := hread h hshort
  exact ⟨d, doc, hd, hcheck, hload, hmade⟩

/-- The data of a document with one variable that has one number as candidate. -/
def numberData (n : Int) : Data where
  cells := #[
    some (.map [(.text "title", 1), (.text "variables", 2)]), some (.scalar (.text "t")),
    some (.list [3]), some (.map [(.text "name", 4), (.text "values", 5)]),
    some (.scalar (.text "v")), some (.list [6]), some (.scalar (.int n))]
  root := 0

theorem isDocument_numberData (n : Int) :
    IsDocument (numberData n).source (.node (numberData n).root) := by
  have hlabel (i : Nat) (s : String) (hs : (numberData n).source.shape (.node i) = .scalar (.text s))
      (hne : s ≠ "") : HoldsLabel (numberData n).source (.node i) :=
    ⟨.text s, hs, rfl, fun h => hne (Scalar.text.inj h)⟩
  have hcandidates : AreCandidates (numberData n).source (.node 5) := by
    have hitems : (numberData n).source.shape (.node 5) = .list [.node 6] := rfl
    refine .items hitems (by simp) fun part hpart => ?_
    obtain rfl := List.mem_singleton.mp hpart
    exact .plain (s := .int n) rfl rfl
  have haxis : IsAxis (numberData n).source (.node 3) := by
    have hentries : (numberData n).source.shape (.node 3) =
        .map [(.text "name", .node 4), (.text "values", .node 5)] := rfl
    exact .of hentries (by simp [Schema.KeysAmong]) rfl (hlabel 4 "v" rfl (by decide)) rfl
      hcandidates
  have hentries : (numberData n).source.shape (.node 0) =
      .map [(.text "title", .node 1), (.text "variables", .node 2)] := rfl
  have hparts : (numberData n).source.shape (.node 2) = .list [.node 3] := rfl
  refine .of hentries (by simp [Schema.KeysAmong]) rfl (hlabel 1 "t" rfl (by decide))
    (fun _ hname => by cases hname) rfl hparts (by simp) fun part hpart => ?_
  obtain rfl := List.mem_singleton.mp hpart
  exact haxis

/-- Such a document passes the check just if its number has not too many digits. -/
theorem check_numberData_iff {n : Int} :
    schema.check (numberData n).source (.node (numberData n).root) = .ok none ↔
      Number.isTooLong n = false := by
  have hvalues : (numberData n).unfold (.node 5) = .list [.int n] := rfl
  have hfield : field? (entriesOf (numberData n).source (.node 3)) "values" = some (.node 5) := rfl
  have hparts : (numberData n).source.shape (.node 2) = .list [.node 3] := rfl
  rw [check_eq_none_iff_isDocument, and_iff_right (isDocument_numberData n),
    show ValuesShort (numberData n) _ ↔ _ from shortValues_iff rfl hparts,
    List.forall_mem_singleton, hfield]
  simp [hvalues, Value.isTooLong, Value.someTooLong, Scalar.isTooLong]

/-- A document that does not pass the check. -/
theorem unchecked_longNumber :
    ¬ ∀ d : Data, schema.check d.source (.node d.root) = .ok none ↔
      IsDocument d.source (.node d.root) := by
  intro h
  have hlong : Number.isTooLong ((10 ^ 4300 : Nat) : Int) = true := by decide +kernel
  have hshort := check_numberData_iff.mp ((h (numberData ((10 ^ 4300 : Nat) : Int))).mpr
    (isDocument_numberData _))
  rw [hlong] at hshort
  cases hshort

end Document

end CaseGrid
