import CaseGrid.Proofs.Document.Loading
import CaseGrid.Proofs.Yaml.Filling

/-
  Which repeated keys are found when a document is loaded. The keys of a mapping are compared when
  the mapping is filled, with its pairs as they are then. A mapping that is not reached is never
  filled, so its keys are not compared; a mapping that was resolved before it is filled has the
  pairs it took over among those that are compared.

  Proved: `load_repeats`. In a document that is loaded, two written keys of a mapping are alike only
  if the mapping is not reached, or is none by its tag; a document that is refused for a repeated
  key has a mapping with two written keys that are alike, or the mapping that is told has merge keys
  and is named by one. Neither exception can be left out (`repeats_repeatedTargetText`,
  `not_repeats_overridingTargetText`).

  Whether two keys are alike is computed where no key is a mapping that stands for a default value
  (`repeats_iff`).
-/

namespace CaseGrid

/-! ## Keys that are written as scalars -/

namespace Yaml

namespace Nodes

variable {nodes : Nodes} {i k : Nat}

/-- The scalar that a node stands for, if it is written as one and can be read. -/
def scalarAt? (nodes : Nodes) (k : Nat) : Option Scalar :=
  match (nodes.node k).content with
  | .scalar text =>
    match (nodes.node k).asText.reading k text with
    | .ok a => a
    | .error _ => none
  | _ => none

/-- A node that is no mapping has no default value to stand for. -/
theorem standsFor_iff (hk : Merge.pairsOf nodes k = []) {text : Text.Points} :
    nodes.StandsFor k text ↔ (nodes.node k).content = .scalar text := by
  refine ⟨fun h => ?_, .text⟩
  cases h with
  | text h => exact h
  | default hp _ _ =>
    rw [hk] at hp
    exact absurd hp List.not_mem_nil

theorem yields_iff (hk : Merge.pairsOf nodes k = []) {a : Scalar} :
    nodes.Yields k a ↔ nodes.scalarAt? k = some a := by
  unfold Yields scalarAt?
  constructor
  · rintro ⟨text, htext, hreading⟩
    rw [(standsFor_iff hk).mp htext]
    dsimp only
    rw [hreading]
  · intro h
    split at h
    · rename_i text htext
      split at h
      · rename_i found hfound
        exact ⟨text, .text htext, h ▸ hfound⟩
      · cases h
    · cases h

/-- No two of the keys written in a mapping are scalars of one kind that are alike. -/
def Apart (nodes : Nodes) (i : Nat) : Prop :=
  (nodes.ownPairs i).Pairwise fun p q =>
    ∀ a ∈ nodes.scalarAt? p.1, ∀ b ∈ nodes.scalarAt? q.1, Builder.repeats a b = false

/-- None of the keys written in a mapping is a mapping with pairs. -/
def PlainKeys (nodes : Nodes) (i : Nat) : Prop :=
  ∀ p ∈ nodes.ownPairs i, Merge.pairsOf nodes p.1 = []

instance (nodes : Nodes) (i : Nat) : Decidable (nodes.Apart i) :=
  inferInstanceAs (Decidable (List.Pairwise _ _))

instance (nodes : Nodes) (i : Nat) : Decidable (nodes.PlainKeys i) :=
  inferInstanceAs (Decidable (∀ p ∈ nodes.ownPairs i, _))

theorem repeats_iff (hkeys : nodes.PlainKeys i) :
    nodes.Repeats nodes.Yields i ↔ ¬ nodes.Apart i := by
  have hyields {p : Nat × Nat} (hp : p ∈ nodes.ownPairs i) {a : Scalar} :
      nodes.Yields p.1 a ↔ nodes.scalarAt? p.1 = some a := yields_iff (hkeys p hp)
  constructor
  · rintro ⟨p, q, a, b, hsub, ha, hb, hrepeats⟩ hapart
    have hp : p ∈ nodes.ownPairs i := hsub.subset List.mem_cons_self
    have hq : q ∈ nodes.ownPairs i := hsub.subset (by simp)
    have hfalse := List.pairwise_iff_forall_sublist.mp hapart hsub a ((hyields hp).mp ha) b
      ((hyields hq).mp hb)
    rw [hrepeats] at hfalse
    cases hfalse
  · intro hnot
    by_contra hnone
    refine hnot (List.pairwise_iff_forall_sublist.mpr fun {p q} hsub a ha b hb => ?_)
    have hp : p ∈ nodes.ownPairs i := hsub.subset List.mem_cons_self
    have hq : q ∈ nodes.ownPairs i := hsub.subset (by simp)
    by_contra hrepeats
    rw [Bool.not_eq_false] at hrepeats
    exact hnone ⟨p, q, a, b, hsub, (hyields hp).mpr ha, (hyields hq).mpr hb, hrepeats⟩

/-- Past the last node there is no mapping. -/
theorem not_repeats_of_ge {stands : Nat → Scalar → Prop} (h : nodes.size ≤ i) :
    ¬ nodes.Repeats stands i := by
  rintro ⟨p, q, a, b, hsub, -⟩
  have hp : p ∈ nodes.ownPairs i := hsub.subset List.mem_cons_self
  exact Nat.not_lt_of_le h (isMapping_of_mem (mem_ownPairs.mp hp).1).lt

end Nodes

/-! ## What keys are built into -/

namespace Data

/-- A node was built into something. -/
def Builds (d : Data) (i : Nat) : Prop :=
  ∃ c, (d.cells[i]?).join = some c

/-- A node was built into a scalar. -/
def Holds (d : Data) (k : Nat) (a : Scalar) : Prop :=
  (d.cells[k]?).join = some (.scalar a)

/-- What a key is: the scalar it was built into, or if it was not built, what it may stand for. -/
def Makes (d : Data) (nodes : Nodes) (k : Nat) (a : Scalar) : Prop :=
  d.Holds k a ∨ ¬ d.Builds k ∧ nodes.Yields k a

end Data

end Yaml

namespace Document

open Yaml (Data Nodes Trouble)

/-- The data of a document that was loaded. -/
theorem exists_data_of_load {text : String} {t : Trace} {d : Document Value}
    (h : (load text t).1 = .ok d) : ∃ data, Data.ofText text.toList = .ok (some data) := by
  obtain ⟨outcome, hloads, hrun⟩ := load_spec text
  obtain rfl : outcome = .ok d := (hrun t).symm.trans h
  cases hloads with
  | trouble _ _ _ heq => cases heq
  | failed _ heq => cases heq
  | empty _ _ heq => cases heq
  | read htext _ _ => exact ⟨_, htext⟩

/-- A repeated key is told as a malformed scenario. -/
theorem load_of_repeatedKey {text : String} {start place : Yaml.Mark} {shown : String} (t : Trace)
    (h : Data.ofText text.toList = .error (.repeatedKey start shown place)) :
    (load text t).1 = .error (.specification (.make
      ("invalid YAML: " ++ (Trouble.repeatedKey start shown place).message text.toList)
      .null .null (some Yaml.Stage.data.kindName))) := by
  rw [load, h]
  rfl

/-- A repeated key is found when the nodes of the text are built. -/
theorem ofNodes_of_repeatedKey {text : String} {nodes : Nodes} {root : Nat}
    {start place : Yaml.Mark} {shown : String} (hnodes : nodesOf text = .ok (nodes, some root))
    (h : Data.ofText text.toList = .error (.repeatedKey start shown place)) :
    Data.ofNodes nodes root = .error (.repeatedKey start shown place) := by
  rcases bind_eq_error_iff.mp h with h | ⟨_, -, h⟩
  · obtain ⟨_, _, heq⟩ := exists_of_checkCharacters h
    cases heq
  rcases bind_eq_error_iff.mp h with h | ⟨_, hnodes', h⟩
  · cases hnodes.symm.trans h
  cases hnodes.symm.trans hnodes'
  rcases bind_eq_error_iff.mp h with h | ⟨_, _, h⟩
  · exact h
  · cases h

/--
Of a document that is loaded just the nodes are built that are reached from its root, scalars as
their nodes stand for, and a mapping with two written keys of one kind that are alike is not
reached, or has not the tag of a mapping or a set. A document that is refused for a repeated key has
a mapping that begins where it is told; two of its written keys are alike, or it has merge keys and
is itself named by one.
-/
theorem load_repeats {text : String} {nodes : Nodes} {root : Nat} (t : Trace)
    (h : nodesOf text = .ok (nodes, some root)) :
    (∀ d, (load text t).1 = .ok d → ∃ data, Data.ofText text.toList = .ok (some data) ∧
      (∀ i < nodes.size, data.Builds i ↔ nodes.Reached root i) ∧
      (∀ k a, data.Holds k a → nodes.Yields k a) ∧
      ∀ i, nodes.Repeats (data.Makes nodes) i → ¬ (nodes.Reached root i ∧ nodes.IsTable i)) ∧
    ∀ start shown place, Data.ofText text.toList = .error (.repeatedKey start shown place) →
      (load text t).1 = .error (.specification (.make
        ("invalid YAML: " ++ (Trouble.repeatedKey start shown place).message text.toList)
        .null .null (some Yaml.Stage.data.kindName))) ∧
      ∃ i, (nodes.node i).start = start ∧
        (nodes.Repeats nodes.Yields i ∨ nodes.HasMerge i ∧ nodes.Named i) := by
  have hclosed := Yaml.closed_of_ofEvents h
  refine ⟨fun d hd => ?_, fun start shown place htext => ?_⟩
  · obtain ⟨data, htext⟩ := exists_data_of_load hd
    obtain ⟨nodes', root', hnodes', hdata⟩ := nodesOf_of_ofText htext
    cases h.symm.trans hnodes'
    obtain ⟨s, hcells, hroot, hfinished⟩ := Yaml.finished_of_ofNodes hclosed hdata
    have hcell (i : Nat) : (data.cells[i]?).join = s.cell? i := by
      rw [Yaml.DataState.cell?, hcells]
    have hbuilds (i : Nat) : data.Builds i ↔ s.IsBuilt i := by
      rw [Data.Builds, hcell]
      rfl
    have hholds (k : Nat) (a : Scalar) : data.Holds k a ↔ s.cell? k = some (.scalar a) := by
      rw [Data.Holds, hcell]
    have hreaches (i : Nat) (hi : i < nodes.size) : s.IsBuilt i ↔ nodes.Reached root i := by
      refine ⟨hfinished.reached i, fun hreached => ?_⟩
      rcases Nat.lt_or_ge root nodes.size with hlt | hge
      · exact hfinished.isBuilt_of_reached (hroot hlt) hreached
      · exact absurd (hreached.eq_root hge ▸ hi) (Nat.not_lt_of_le hge)
    refine ⟨data, htext, fun i hi => (hbuilds i).trans (hreaches i hi),
      fun k a ha => hfinished.yields k a ((hholds k a).mp ha), ?_⟩
    rintro i ⟨p, q, a, b, hsub, ha, hb, hrepeats⟩ ⟨hreached, htable⟩
    have hbuilt := (hreaches i htable.lt).mpr hreached
    have hfilled := hfinished.filled_of_isCollection hbuilt (.inl htable)
    have hscalar {p : Nat × Nat} (hp : p ∈ nodes.ownPairs i) {a : Scalar}
        (ha : data.Makes nodes p.1 a) : s.cell? p.1 = some (.scalar a) := by
      obtain ⟨b, hb⟩ := (hfilled.keys htable).1 p hp
      exact (hholds p.1 a).mp (ha.resolve_right fun h => h.1 ((hbuilds p.1).mpr ⟨_, hb⟩))
    exact hfilled.not_repeats htable ⟨p, q, a, b, hsub,
      hscalar (hsub.subset List.mem_cons_self) ha,
      hscalar (hsub.subset (List.mem_cons_of_mem p List.mem_cons_self)) hb, hrepeats⟩
  · obtain ⟨i, hstart, hi⟩ :=
      Yaml.explained_of_ofNodes hclosed (ofNodes_of_repeatedKey h htext) start shown place rfl
    exact ⟨load_of_repeatedKey t htext, i, hstart, hi⟩

/-- Whether a document is loaded, and has nodes of a certain kind. -/
def loadsWith (accepts : Nodes → Bool) (text : String) : Bool :=
  match (load text default).1, nodesOf text with
  | .ok _, .ok (nodes, some _) => accepts nodes
  | _, _ => false

theorem exists_of_loadsWith {accepts : Nodes → Bool} {text : String}
    (h : loadsWith accepts text = true) :
    ∃ d nodes root, (load text default).1 = .ok d ∧ nodesOf text = .ok (nodes, some root) ∧
      accepts nodes = true := by
  unfold loadsWith at h
  split at h
  · rename_i hload hnodes
    exact ⟨_, _, _, hload, hnodes, h⟩
  · cases h

/-- A document with a mapping that overrides a key it takes over. -/
def overridingText : String :=
  "title: t\nvariables:\n  - name: v\n    values: \x7b<<: \x7ba: 1\x7d, a: 2\x7d\n"

/-- That document is loaded, and no mapping in it that is reached repeats a key. -/
theorem load_repeats_overridingText :
    ∃ d nodes root data, (load overridingText default).1 = .ok d ∧
      nodesOf overridingText = .ok (nodes, some root) ∧
      Data.ofText overridingText.toList = .ok (some data) ∧
      ∀ i, nodes.Reached root i → nodes.IsTable i → ¬ nodes.Repeats (data.Makes nodes) i := by
  have hloads : loadsWith (fun _ => true) overridingText = true := by decide +kernel
  obtain ⟨d, nodes, root, hload, hnodes, -⟩ := exists_of_loadsWith hloads
  obtain ⟨data, htext, -, -, hunreached⟩ := (load_repeats default hnodes).1 d hload
  exact ⟨d, nodes, root, data, hload, hnodes, htext, fun i hreached htable hrepeats =>
    hunreached i hrepeats ⟨hreached, htable⟩⟩

/-- A document in which a mapping that only a merge key names has a key twice. -/
def repeatedTargetText : String :=
  "title: t\nvariables:\n  - name: v\n    values: \x7b<<: \x7ba: 1, a: 2\x7d\x7d\n"

/-- That document is loaded all the same. -/
theorem repeats_repeatedTargetText :
    ∃ d nodes root i, (load repeatedTargetText default).1 = .ok d ∧
      nodesOf repeatedTargetText = .ok (nodes, some root) ∧
      nodes.Repeats nodes.Yields i := by
  have hloads : loadsWith (fun nodes => (List.range nodes.size).any fun i =>
      decide (nodes.PlainKeys i ∧ ¬ nodes.Apart i)) repeatedTargetText = true := by decide +kernel
  obtain ⟨d, nodes, root, hload, hnodes, hany⟩ := exists_of_loadsWith hloads
  obtain ⟨i, -, hi⟩ := List.any_eq_true.mp hany
  obtain ⟨hkeys, hapart⟩ := of_decide_eq_true hi
  exact ⟨d, nodes, root, i, hload, hnodes, (Nodes.repeats_iff hkeys).mpr hapart⟩

/-- Whether a document is refused for a key that is told in certain words, and has nodes of a
certain kind. -/
def refusesWith (accepts : Nodes → Bool) (shown : String) (text : String) : Bool :=
  match Data.ofText text.toList, nodesOf text with
  | .error (.found .data (some context) (some _) problem _), .ok (nodes, some _) =>
    context == "while constructing a mapping" && problem == "found duplicate key " ++ shown &&
      accepts nodes
  | _, _ => false

theorem exists_of_refusesWith {accepts : Nodes → Bool} {shown text : String}
    (h : refusesWith accepts shown text = true) :
    ∃ nodes root start place, nodesOf text = .ok (nodes, some root) ∧
      Data.ofText text.toList = .error (.repeatedKey start shown place) ∧
      accepts nodes = true := by
  unfold refusesWith at h
  split at h
  · rename_i htext hnodes
    simp only [Bool.and_eq_true, beq_iff_eq] at h
    obtain ⟨⟨rfl, rfl⟩, h⟩ := h
    exact ⟨_, _, _, _, hnodes, htext, h⟩
  · cases h

/-- A document in which a mapping that overrides a key is taken over before it is filled. -/
def overridingTargetText : String :=
  "title: t\nvariables:\n  - name: v\n" ++
    "    values: \x7bb: \x7b<<: &x \x7b<<: \x7ba: 1\x7d, a: 2\x7d\x7d, c: *x\x7d\n"

/-- That document is refused for a repeated key, and no mapping in it repeats one. -/
theorem not_repeats_overridingTargetText :
    ∃ nodes root start place, nodesOf overridingTargetText = .ok (nodes, some root) ∧
      Data.ofText overridingTargetText.toList = .error (.repeatedKey start "'a'" place) ∧
      ∀ i, ¬ nodes.Repeats nodes.Yields i := by
  have hrefuses : refusesWith (fun nodes => (List.range nodes.size).all fun i =>
      decide (nodes.PlainKeys i ∧ nodes.Apart i)) "'a'" overridingTargetText = true := by
    decide +kernel
  obtain ⟨nodes, root, start, place, hnodes, htext, hall⟩ := exists_of_refusesWith hrefuses
  refine ⟨nodes, root, start, place, hnodes, htext, fun i hrepeats => ?_⟩
  rcases Nat.lt_or_ge i nodes.size with hlt | hge
  · obtain ⟨hkeys, hapart⟩ :=
      of_decide_eq_true (List.all_eq_true.mp hall i (List.mem_range.mpr hlt))
    exact (Nodes.repeats_iff hkeys).mp hrepeats hapart
  · exact Nodes.not_repeats_of_ge hge hrepeats

end Document

end CaseGrid
