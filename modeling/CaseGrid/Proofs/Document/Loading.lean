import CaseGrid.Proofs.Document.Checking
import CaseGrid.Proofs.Document.Unfolding
import CaseGrid.Proofs.Yaml.Building

/-
  What loading a document does not report. Trouble with a text, data that is no mapping and data
  that does not keep the schema are reported as malformed scenarios. Not reported is a failure of
  another kind on which the reading of the text breaks off, and a whole number with too many digits
  that would have to be shown in an error or as a name.

  Proved: `load_reported_iff`, that these two are all there is; that a text whose nodes are regular
  has neither of them; and what loading ends with instead. The induction for the failures is on the
  builder of the data.
-/

namespace CaseGrid

/-! ## Data that can be written -/

namespace Value

theorem written_of_short {v : Value} (h : v.isTooLong = false) : v.written = .ok v.literal := by
  rw [written, h]
  rfl

theorem named_of_short {v : Value} (h : v.isTooLong = false) : ∃ w, v.named = .ok w := by
  unfold named
  split
  · exact ⟨_, rfl⟩
  · rw [h]
    exact ⟨_, rfl⟩

end Value

namespace Yaml.Data

/-- Data whose scalars, keys and members have no number with too many digits to be written. -/
structure Writable (d : Data) : Prop where
  scalar : ∀ p a, d.shape p = .scalar a → a.isTooLong = false
  keys : ∀ p entries, d.shape p = .map entries → ∀ e ∈ entries, e.1.isTooLong = false
  members : ∀ p members, d.shape p = .set members → ∀ m ∈ members, m.isTooLong = false

/-- The unfolding of such data has no such number. -/
theorem Writable.unfold {d : Data} (h : d.Writable) (p : Piece) :
    (d.unfold p).isTooLong = false := by
  refine short_unfold_iff.mpr fun x _ => ?_
  cases hx : d.shape x with
  | scalar a => exact h.scalar x a hx
  | map entries => exact Shape.showsLong_map_iff.mpr (h.keys x entries hx)
  | set members => simpa [Shape.showsLong] using h.members x members hx
  | list _ => rfl
  | tuple _ => rfl
  | again _ => rfl

/-- All that fails in showing data is a number with too many digits. -/
theorem eq_numberTooLong_of_unshown {d : Data} {e : Fault} (h : d.source.Unshown e) :
    e = .numberTooLong := by
  cases h with
  | piece h => exact Value.eq_numberTooLong_of_written h
  | scalar _ h => exact Value.eq_numberTooLong_of_named h
  | key _ _ h =>
    exact h.elim Value.eq_numberTooLong_of_written Value.eq_numberTooLong_of_named

theorem Writable.not_unshown {d : Data} {e : Fault} (h : d.Writable) : ¬ d.source.Unshown e := by
  rintro (⟨hliteral⟩ | ⟨hs, hnamed⟩ | ⟨ha, hx, hkey⟩)
  · rw [show d.source.literal _ = _ from Value.written_of_short (h.unfold _)] at hliteral
    cases hliteral
  · obtain ⟨w, hw⟩ := Value.named_of_short (v := .scalar _) (h.scalar _ _ hs)
    rw [hw] at hnamed
    cases hnamed
  · have hshort := h.keys _ _ ha _ hx
    obtain ⟨w, hw⟩ := Value.named_of_short hshort
    rw [Value.written_of_short hshort, hw] at hkey
    exact hkey.elim nofun nofun

/-- The view of a node goes by its cell. -/
theorem shape_node (d : Data) (i : Nat) : d.shape (.node i) =
    match (d.cells[i]?).join with
    | none => .scalar .null
    | some (.scalar s) => .scalar s
    | some (.list items) => .list (items.map .node)
    | some (.pairs items) => .list (items.mapIdx fun n p => .pair i n p.1 p.2)
    | some (.map entries) => .map (entries.map fun e => (.scalar e.1, .node e.2))
    | some (.set members) => .set (members.map .scalar) := rfl

/-- The data of regular nodes can be written. -/
theorem writable_of_regular {nodes : Nodes} {root : Nat} {d : Data} (hclosed : nodes.Closed)
    (hregular : nodes.Regular) (h : ofNodes nodes root = .ok d) : d.Writable := by
  obtain ⟨-, s, hsound, hcells⟩ := sound_of_ofNodes hclosed h
  have hbuilt (i : Nat) (c : Cell) (hc : (d.cells[i]?).join = some c) : Built nodes s i c :=
    hsound.built i c (by rw [DataState.cell?, hcells, hc])
  refine ⟨fun p a hp => ?_, fun p entries hp => ?_, fun p members hp => ?_⟩
  · cases p with
    | pair _ _ _ _ => cases hp
    | node i =>
      rw [shape_node] at hp
      split at hp <;> cases hp
      · rfl
      · rename_i hc
        exact hbuilt i _ hc hregular
  · cases p with
    | pair _ _ _ _ => cases hp
    | node i =>
      rw [shape_node] at hp
      split at hp <;> cases hp
      rename_i entries hc
      intro e he
      obtain ⟨x, hx, rfl⟩ := List.mem_map.mp he
      exact (hbuilt i _ hc).1 hregular x hx
  · cases p with
    | pair _ _ _ _ => cases hp
    | node i =>
      rw [shape_node] at hp
      split at hp <;> cases hp
      rename_i members hc
      intro m hm
      obtain ⟨x, hx, rfl⟩ := List.mem_map.mp hm
      exact hbuilt i _ hc hregular x hx

end Yaml.Data

namespace Document

open Yaml (Data Event Node Nodes Token Trouble)

/-! ## What is reported -/

/-- An operation ended with a result or with a malformed scenario. -/
def Reported {α : Type} (outcome : Except Failure α) : Prop :=
  (∃ a, outcome = .ok a) ∨ ∃ e, outcome = .error (.specification e)

/-- Data of a document for which a number with too many digits would have to be shown: in an error,
or as a name. -/
inductive Untold (d : Data) : Prop where
  | checked {entries : List (Value × Yaml.Piece)} (hmap : d.shape (.node d.root) = .map entries)
    (h : schema.check d.source (.node d.root) = .error .numberTooLong)
  | named {entries : List (Value × Yaml.Piece)} (hmap : d.shape (.node d.root) = .map entries)
    (hcheck : schema.check d.source (.node d.root) = .ok none)
    (h : ofData d.source (.node d.root) = .error .numberTooLong)

instance {α : Type} (outcome : Except Failure α) : Decidable (Reported outcome) :=
  match outcome with
  | .ok a => .isTrue (.inl ⟨a, rfl⟩)
  | .error (.specification e) => .isTrue (.inr ⟨e, rfl⟩)
  | .error (.raised _ _) | .error (.fault _) | .error (.assertion _ _ _)
  | .error (.execution _ _ _ _) | .error (.other _ _) | .error (.mute _ _) =>
    .isFalse fun h => h.elim nofun nofun

theorem Untold.unshown {d : Data} (h : Untold d) : d.source.Unshown .numberTooLong := by
  cases h with
  | checked _ h => exact Schema.unshown_of_check h
  | named _ _ h => exact unshown_of_ofData h

/-- Reading data ends unreported just where a number would have to be shown that is too long. -/
theorem read_reported_iff {d : Data} {outcome : Except Failure (Document Yaml.Piece)}
    (h : Reads d.source (.node d.root) outcome) :
    (Reported outcome ↔ ¬ Untold d) ∧ (Untold d → outcome = .error (.fault .numberTooLong)) := by
  cases h with
  | notMapping e hother =>
    have hnot : ¬ Untold d := by
      rintro (⟨hmap, _⟩ | ⟨hmap, _, _⟩) <;> exact hother _ hmap
    exact ⟨iff_of_true (.inr ⟨e, rfl⟩) hnot, fun huntold => absurd huntold hnot⟩
  | refused e hmap hcheck =>
    have hnot : ¬ Untold d := by
      rintro (⟨_, h⟩ | ⟨_, h, _⟩) <;> cases hcheck.symm.trans h
    exact ⟨iff_of_true (.inr ⟨e, rfl⟩) hnot, fun huntold => absurd huntold hnot⟩
  | read hmap hcheck hdata =>
    have hnot : ¬ Untold d := by
      rintro (⟨_, h⟩ | ⟨_, _, h⟩)
      · cases hcheck.symm.trans h
      · cases hdata.symm.trans h
    exact ⟨iff_of_true (.inl ⟨_, rfl⟩) hnot, fun huntold => absurd huntold hnot⟩
  | unchecked hmap hcheck =>
    obtain rfl := Data.eq_numberTooLong_of_unshown (Schema.unshown_of_check hcheck)
    exact ⟨iff_of_false (by decide) (not_not_intro (.checked hmap hcheck)), fun _ => rfl⟩
  | unread hmap hcheck hdata =>
    obtain rfl := Data.eq_numberTooLong_of_unshown (unshown_of_ofData hdata)
    exact ⟨iff_of_false (by decide) (not_not_intro (.named hmap hcheck hdata)), fun _ => rfl⟩

theorem reported_map_iff {α β : Type} {outcome : Except Failure α} {f : α → β} :
    Reported (outcome.map f) ↔ Reported outcome := by
  cases outcome with
  | ok a => exact iff_of_true (.inl ⟨f a, rfl⟩) (.inl ⟨a, rfl⟩)
  | error e => simp [Reported, Except.map]

namespace Loads

variable {text : String} {outcome : Except Failure (Document Value)}

theorem of_failed {why : Yaml.Breakdown} {message : String} (h : Loads text outcome)
    (htext : Data.ofText text.toList = .error (.failed why message)) :
    outcome = .error (.other why.kind message) := by
  cases h with
  | trouble _ h hfound _ =>
    cases h.symm.trans htext
    exact absurd rfl (hfound why message)
  | failed h heq =>
    cases h.symm.trans htext
    exact heq
  | empty _ h _ => cases h.symm.trans htext
  | read h _ _ => cases h.symm.trans htext

theorem of_data {d : Data} (h : Loads text outcome)
    (htext : Data.ofText text.toList = .ok (some d)) :
    ∃ found, Reads d.source (.node d.root) found ∧ outcome = found.map (Document.map d.unfold) := by
  cases h with
  | trouble _ h _ _ => cases h.symm.trans htext
  | failed h _ => cases h.symm.trans htext
  | empty _ h _ => cases h.symm.trans htext
  | @read _ found h hread heq =>
    cases h.symm.trans htext
    exact ⟨found, hread, heq⟩

theorem of_empty (h : Loads text outcome) (htext : Data.ofText text.toList = .ok none) :
    ∃ e, outcome = .error (.specification e) := by
  cases h with
  | trouble _ h _ _ => cases h.symm.trans htext
  | failed h _ => cases h.symm.trans htext
  | empty e _ heq => exact ⟨e, heq⟩
  | read h _ _ => cases h.symm.trans htext

theorem of_untold {d : Data} (h : Loads text outcome)
    (htext : Data.ofText text.toList = .ok (some d)) (hd : Untold d) :
    outcome = .error (.fault .numberTooLong) := by
  obtain ⟨found, hread, heq⟩ := h.of_data htext
  rw [heq, (read_reported_iff hread).2 hd]
  rfl

theorem reported_iff (h : Loads text outcome) :
    Reported outcome ↔
      (∀ why message, Data.ofText text.toList ≠ .error (.failed why message)) ∧
        ∀ d, Data.ofText text.toList = .ok (some d) → ¬ Untold d := by
  cases h with
  | trouble e h hfound heq =>
    rw [heq, h]
    refine iff_of_true (.inr ⟨e, rfl⟩) ⟨fun why message htext => ?_, fun _ htext => nomatch htext⟩
    exact hfound why message (Except.error.inj htext)
  | @failed why message h heq =>
    rw [heq, h]
    exact iff_of_false (fun hreported => hreported.elim nofun nofun)
      fun hboth => hboth.1 why message rfl
  | empty e h heq =>
    rw [heq, h]
    exact iff_of_true (.inr ⟨e, rfl⟩) ⟨nofun, fun _ htext => nomatch htext⟩
  | @read data _ h hread heq =>
    rw [heq, h, reported_map_iff, (read_reported_iff hread).1]
    refine ⟨fun hnot => ⟨nofun, fun d hd => ?_⟩, fun hboth => hboth.2 data rfl⟩
    cases hd
    exact hnot

end Loads

/-! ## Regular texts -/

/-- The nodes of the document of a text, and its root if there is one. -/
def nodesOf (text : String) : Except Trouble (Nodes × Option Nat) :=
  Node.ofEvents (Event.ofTokens (Token.ofText text.toList))

/-- A text of regular nodes: every scalar is one that its tag can read, and collections stand where
their tags want them. What is found before there are nodes is trouble with the text. -/
structure RegularText (text : String) : Prop where
  nodes : ∀ nodes root, nodesOf text = .ok (nodes, root) → nodes.Regular
  trouble : ∀ e, nodesOf text = .error e → ¬ e.Breaks

theorem regularText_of_ok {text : String} {nodes : Nodes} {root : Option Nat}
    (h : nodesOf text = .ok (nodes, root)) : RegularText text ↔ nodes.Regular := by
  refine ⟨fun hregular => hregular.nodes nodes root h, fun hregular => ⟨fun _ _ h' => ?_, ?_⟩⟩
  · cases h.symm.trans h'
    exact hregular
  · intro _ h'
    cases h.symm.trans h'

theorem regularText_of_error {text : String} {e : Trouble} (h : nodesOf text = .error e) :
    RegularText text ↔ ¬ e.Breaks := by
  refine ⟨fun hregular => hregular.trouble e h, fun he => ⟨fun _ _ h' => ?_, fun _ h' => ?_⟩⟩
  · cases h.symm.trans h'
  · cases h.symm.trans h'
    exact he

instance (text : String) : Decidable (RegularText text) :=
  match h : nodesOf text with
  | .ok (_, _) => decidable_of_iff _ (regularText_of_ok h).symm
  | .error _ => decidable_of_iff _ (regularText_of_error h).symm

/-- What is wrong with the characters of a text is told of one of them. -/
theorem exists_of_checkCharacters {position : Nat} {cs : List Char} {e : Trouble}
    (h : Yaml.checkCharacters position cs = .error e) : ∃ p c, e = .character p c := by
  induction cs generalizing position with
  | nil => cases h
  | cons c cs ih =>
    rw [Yaml.checkCharacters] at h
    split at h
    · exact ih h
    · cases h
      exact ⟨position, c, rfl⟩

theorem not_breaks_of_checkCharacters {position : Nat} {cs : List Char} {e : Trouble}
    (h : Yaml.checkCharacters position cs = .error e) : ¬ e.Breaks := by
  obtain ⟨_, _, rfl⟩ := exists_of_checkCharacters h
  exact Trouble.not_breaks_character

/-- What stops the reading of a regular text is trouble with the text. -/
theorem RegularText.not_breaks {text : String} (h : RegularText text) {e : Trouble}
    (he : Data.ofText text.toList = .error e) : ¬ e.Breaks := by
  rcases bind_eq_error_iff.mp he with he | ⟨_, -, he⟩
  · exact not_breaks_of_checkCharacters he
  rcases bind_eq_error_iff.mp he with he | ⟨⟨nodes, root⟩, hnodes, he⟩
  · exact h.trouble e he
  cases root with
  | none => cases he
  | some root =>
    rcases bind_eq_error_iff.mp he with he | ⟨_, -, he⟩
    · exact Yaml.not_breaks_of_ofNodes (Yaml.closed_of_ofEvents hnodes)
        (h.nodes nodes _ hnodes) he
    · cases he

/-- The data of a text is that of its nodes. -/
theorem nodesOf_of_ofText {text : String} {d : Data}
    (h : Data.ofText text.toList = .ok (some d)) :
    ∃ nodes root, nodesOf text = .ok (nodes, some root) ∧ Data.ofNodes nodes root = .ok d := by
  obtain ⟨_, -, h⟩ := bind_eq_ok_iff.mp h
  obtain ⟨⟨nodes, root⟩, hnodes, h⟩ := bind_eq_ok_iff.mp h
  cases root with
  | none => cases h
  | some root =>
    obtain ⟨data, hdata, h⟩ := bind_eq_ok_iff.mp h
    cases h
    exact ⟨nodes, root, hnodes, hdata⟩

theorem RegularText.writable {text : String} (h : RegularText text) {d : Data}
    (hd : Data.ofText text.toList = .ok (some d)) : d.Writable := by
  obtain ⟨nodes, root, hnodes, hdata⟩ := nodesOf_of_ofText hd
  exact Data.writable_of_regular (Yaml.closed_of_ofEvents hnodes) (h.nodes nodes _ hnodes) hdata

/--
Loading a text ends with a document or a malformed scenario just if the reading of the text does not
break off with a failure of another kind and no number with too many digits would have to be shown;
else it ends with that failure, or with the refusal to write the number. Regular texts are reported.
-/
theorem load_reported_iff (text : String) (t : Trace) :
    (Reported (load text t).1 ↔
      (∀ why message, Data.ofText text.toList ≠ .error (.failed why message)) ∧
        ∀ d, Data.ofText text.toList = .ok (some d) → ¬ Untold d) ∧
    (∀ why message, Data.ofText text.toList = .error (.failed why message) →
      (load text t).1 = .error (.other why.kind message)) ∧
    (∀ d, Data.ofText text.toList = .ok (some d) → Untold d →
      (load text t).1 = .error (.fault .numberTooLong)) ∧
    (RegularText text → Reported (load text t).1) := by
  obtain ⟨outcome, hloads, hrun⟩ := load_spec text
  rw [hrun t]
  have hiff := hloads.reported_iff
  refine ⟨hiff, fun why message htext => ?_, fun d htext hd => ?_, fun hregular => ?_⟩
  · exact hloads.of_failed htext
  · exact hloads.of_untold htext hd
  · refine hiff.mpr ⟨fun why message htext => ?_, fun d htext hd => ?_⟩
    · exact hregular.not_breaks htext ⟨why, message, rfl⟩
    · exact (hregular.writable htext).not_unshown hd.unshown

/-- A document with one variable of one number. -/
def plainText : String :=
  "title: t\nvariables: [\x7bname: v, values: [1]\x7d]\n"

theorem load_reported_plainText :
    RegularText plainText ∧ Reported (load plainText default).1 := by
  have hregular : RegularText plainText := by decide +kernel
  exact ⟨hregular, (load_reported_iff plainText default).2.2.2 hregular⟩

/-- A document with a date that the calendar does not have. -/
def strayDateText : String :=
  "title: t\nvariables: [\x7bname: v, values: [2021-02-30]\x7d]\n"

/-- Loading that document breaks off with a failure that is no malformed scenario. -/
theorem not_reported_strayDateText : ¬ Reported (load strayDateText default).1 := by
  decide +kernel

end Document

end CaseGrid
