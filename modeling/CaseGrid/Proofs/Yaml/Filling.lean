import CaseGrid.Proofs.Yaml.Reaching

/-
  With what the collections of a document are filled, and where a repeated key is found. Each
  operation of the builder has one lemma, with the invariant of `Reaching` before and after.

  Proved: once the data of a document is built, its nodes are those that are reached from the root,
  every scalar is one that its node stands for, and the keys written in a mapping that is reached do
  not repeat each other (`finished_of_ofNodes`, `Filled.not_repeats`); a key found to repeat another
  is in a mapping whose written keys do, or in one with merge keys that was resolved before, as
  another merge key names it (`explained_of_ofNodes`).

  A mapping is resolved in place, so what another one takes over may change while it waits. What is
  taken over from it is either still so or built by then (`Covered`): that is why a mapping that was
  resolved for another one still has all pairs of it built.
-/

namespace CaseGrid.Yaml

open CaseGrid.Text (Points)

namespace Builder

section Scalars

variable {I : DataState → Prop} {origin : Nodes} {asked : Nat → Prop} {s : DataState}

/-- The text that is found for a node is one that it stands for. -/
theorem textOf_leads (hs : I s) (hkept : Kept origin asked s.nodes) (fuel i : Nat) :
    Leads I Trouble.Other s (textOf fuel i) fun text s' => s' = s ∧ origin.StandsFor i text := by
  induction fuel generalizing i with
  | zero => exact .fail (Trouble.other_failed _ _)
  | succ fuel ih =>
    rw [textOf]
    refine .node_bind ?_
    split
    · rename_i text hcontent
      have hi : ¬ origin.IsMapping i := by
        intro hmapping
        obtain ⟨pairs, hpairs⟩ := hkept.akin.mapping i hmapping
        cases hcontent.symm.trans hpairs
      exact .pure hs ⟨rfl, .text (hkept.akin.other i hi ▸ hcontent)⟩
    · exact .fail (Trouble.other_bare _ _ _)
    · rename_i pairs hcontent
      refine .get_bind ?_
      dsimp only
      split
      · rename_i p hp
        have hdefault : (s.nodes.node p.1).tag = Tag.default := by simpa using List.find?_some hp
        have hmem : p ∈ Merge.pairsOf s.nodes i := by
          rw [Merge.pairsOf, hcontent]
          exact List.mem_of_find?_eq_some hp
        have hbefore : (origin.node p.1).tag = Tag.default := by
          rcases hkept.akin.tag p.1 with heq | ⟨hbefore, -⟩
          · exact heq ▸ hdefault
          · exact hbefore
        refine (ih p.2).imp ?_
        rintro text s₁ - - ⟨heq, hstands⟩
        exact ⟨heq, .default (hkept.mem_of_default hmem hdefault) hbefore hstands⟩
      · exact .fail (Trouble.other_bare _ _ _)

/-- A node with the tag of a scalar yields what is read in the course of merging in a text that it
stands for. -/
theorem yields_of_reading {nodes : Nodes} (hkept : Kept origin asked nodes) {i : Nat}
    (htag : (nodes.node i).tag ∈ Tag.scalars) {text : Points} (htext : origin.StandsFor i text)
    {a : Scalar} (h : (nodes.node i).reading i text = .ok (some a)) : origin.Yields i a := by
  refine ⟨text, htext, ?_⟩
  rw [← h]
  refine Node.reading_congr ?_ ?_ ?_ i text
  · unfold Node.asText
    rcases hkept.akin.tag i with heq | ⟨hdefault, hstr⟩
    · rw [if_neg (heq ▸ fun hdefault => absurd (hdefault ▸ htag) (by decide)), heq]
    · rw [if_pos hdefault, hstr]
  · unfold Node.asText
    split <;> exact (hkept.akin.start i).symm
  · have hcontent : (origin.node i).asText.content = (origin.node i).content := by
      unfold Node.asText
      split <;> rfl
    rw [hcontent]
    by_cases hi : origin.IsMapping i
    · obtain ⟨ps, hps⟩ := hi
      obtain ⟨ps', hps'⟩ := hkept.akin.mapping i ⟨ps, hps⟩
      exact .inr ⟨ps, ps', hps, hps'⟩
    · exact .inl (hkept.akin.other i hi).symm

/-- The scalar that is found for a node is one that it yields. -/
theorem scalar?_leads (hs : I s) (hkept : Kept origin asked s.nodes) (fuel i : Nat) :
    Leads I Trouble.Other s (scalar? i (s.nodes.node i) (textOf fuel i)) fun found s' =>
      s' = s ∧ ∀ a, found = some a → origin.Yields i a := by
  by_cases htag : (s.nodes.node i).tag ∈ Tag.scalars
  · obtain ⟨heq, hother⟩ := scalar?_eq_bind (i := i) htag
    rw [heq]
    refine (textOf_leads hs hkept fuel i).bind ?_
    rintro text s₁ hs₁ - ⟨heq₁, htext⟩
    subst heq₁
    refine .lift hs₁ (fun found hfound => ⟨rfl, fun a ha => ?_⟩) (hother text)
    exact yields_of_reading hkept htag htext (ha ▸ hfound)
  · rw [scalar?_of_not_mem htag]
    exact .pure hs ⟨rfl, nofun⟩

end Scalars

/-! ## Building nodes -/

section Nodes

variable {origin : Nodes} {root : Nat} {done : List Nat} {s : DataState}

theorem tag_of_emptyCell? {tag : String} {c : Cell} (h : emptyCell? tag = some c) :
    tag = Tag.map ∨ tag = Tag.seq ∨ tag = Tag.set ∨ tag = Tag.omap ∨ tag = Tag.pairs := by
  unfold emptyCell? at h
  split at h
  · tauto
  · split at h
    · tauto
    · split at h
      · tauto
      · split at h
        · tauto
        · cases h

/-- Past the last node there is an empty text, so a collection is one of the nodes. -/
theorem lt_of_emptyCell? {nodes : Nodes} {i : Nat} {c : Cell}
    (h : emptyCell? (nodes.node i).tag = some c) : i < nodes.size := by
  by_contra hge
  rw [Nodes.node_of_ge (Nat.le_of_not_lt hge)] at h
  revert h
  rw [show emptyCell? Tag.str = none by decide]
  exact nofun

theorem isCollection_of_emptyCell? {asked : Nat → Prop} {nodes : Nodes}
    (hkept : Kept origin asked nodes) {i : Nat} {c : Cell}
    (h : emptyCell? (nodes.node i).tag = some c) : origin.IsCollection i := by
  have htag : (nodes.node i).tag = (origin.node i).tag := by
    rcases hkept.akin.tag i with heq | ⟨-, hstr⟩
    · exact heq
    · rw [hstr] at h
      cases h
  rcases htag ▸ tag_of_emptyCell? h with h | h | h | h | h
  · exact .inl (.inl h)
  · exact .inr (.inl h)
  · exact .inl (.inr h)
  · exact .inr (.inr (.inl h))
  · exact .inr (.inr (.inr h))

/-- What a node is built into is in its cell, and is a scalar that it yields or a collection; no
merge key is built. -/
theorem build_leads (hs : Proceeds origin root done s) {i : Nat}
    (hreached : (origin.node i).tag ≠ Tag.merge → origin.Reached root i) :
    Leads (Proceeds origin root done) Trouble.Other s (build i) fun c s' =>
      s'.nodes = s.nodes ∧ (i < origin.size → s'.cell? i = some c) ∧
        ∀ a, c = .scalar a → origin.Yields i a := by
  unfold build
  refine .cell?_bind ?_
  cases hcell : s.cell? i with
  | some c => exact .pure hs ⟨rfl, fun _ => hcell, fun a ha => hs.yields i a (ha ▸ hcell)⟩
  | none =>
    refine .node_bind ?_
    refine .get_bind ?_
    refine (scalar?_leads hs hs.kept _ i).bind ?_
    rintro a s₁ hs₁ - ⟨heq₁, hyields⟩
    subst heq₁
    cases a with
    | some a =>
      have hstays : Stays s₁ { s₁ with cells := s₁.cells.setIfInBounds i (some (.scalar a)) } :=
        stays_set fun c₀ hc₀ => by cases hcell.symm.trans hc₀
      have ha := hyields a rfl
      have hnot : (origin.node i).tag ≠ Tag.merge := by
        intro hmerge
        rcases ha.tag with htag | htag <;> exact absurd (hmerge ▸ htag) (by decide)
      refine .of_ok rfl (hs₁.setScalar hcell ha (hreached hnot)) hstays ⟨rfl, fun hi => ?_, ?_⟩
      · rw [cell?_set, if_pos ⟨rfl, hs₁.size.symm ▸ hi⟩]
      · intro b hb
        cases hb
        exact ha
    | none =>
      cases hempty : emptyCell? (s₁.nodes.node i).tag with
      | none => exact .fail (Trouble.other_bare _ _ _)
      | some c =>
        have hi : i < origin.size := hs₁.kept.akin.size ▸ lt_of_emptyCell? hempty
        have hkind := isCollection_of_emptyCell? hs₁.kept hempty
        have hstays : Stays s₁ { s₁ with cells := s₁.cells.setIfInBounds i (some c) } :=
          stays_set fun c₀ hc₀ => by cases hcell.symm.trans hc₀
        refine .of_ok rfl (hs₁.wait hcell hi (emptyCell?_scalar? hempty) hkind
          (hreached (ne_merge_of_isCollection hkind))) hstays ⟨rfl, fun _ => ?_, ?_⟩
        · exact cell?_set.trans (if_pos ⟨rfl, hs₁.size.symm ▸ hi⟩)
        · rintro a rfl
          cases emptyCell?_scalar? hempty

theorem buildAll_leads (hs : Proceeds origin root done s) {items : List Nat}
    (hitems : ∀ i ∈ items, i < origin.size ∧ origin.Reached root i) :
    Leads (Proceeds origin root done) Trouble.Other s (buildAll items) fun _ s' =>
      s'.nodes = s.nodes ∧ ∀ i ∈ items, s'.IsBuilt i := by
  induction items generalizing s with
  | nil => exact .pure hs ⟨rfl, nofun⟩
  | cons i items ih =>
    obtain ⟨hi, hreached⟩ := hitems i List.mem_cons_self
    rw [buildAll]
    refine (build_leads hs fun _ => hreached).bind ?_
    rintro c s₁ hs₁ - ⟨heq₁, hc, -⟩
    refine (ih hs₁ fun j hj => hitems j (List.mem_cons_of_mem i hj)).imp ?_
    rintro _ s₂ - hstays ⟨heq₂, hbuilt⟩
    refine ⟨heq₂.trans heq₁, fun j hj => ?_⟩
    rcases List.mem_cons.mp hj with rfl | hj
    · exact hstays.isBuilt ⟨c, hc hi⟩
    · exact hbuilt j hj

end Nodes

/-! ## Keys and entries -/

section Entries

variable {origin : Nodes} {root : Nat} {done : List Nat} {s : DataState}

/-- The keys and values of pairs are nodes, and are reached except with a merge key. -/
structure Buildable (origin : Nodes) (root : Nat) (ps : List (Nat × Nat)) : Prop where
  key : ∀ p ∈ ps, p.1 < origin.size ∧ ((origin.node p.1).tag ≠ Tag.merge → origin.Reached root p.1)
  value : ∀ p ∈ ps,
    p.2 < origin.size ∧ ((origin.node p.1).tag ≠ Tag.merge → origin.Reached root p.2)

theorem Buildable.tail {p : Nat × Nat} {ps : List (Nat × Nat)}
    (h : Buildable origin root (p :: ps)) : Buildable origin root ps :=
  ⟨fun q hq => h.key q (List.mem_cons_of_mem p hq),
    fun q hq => h.value q (List.mem_cons_of_mem p hq)⟩

/-- The pairs without a merge key. -/
def withoutMerge (origin : Nodes) (ps : List (Nat × Nat)) : List (Nat × Nat) :=
  ps.filter fun p => !Merge.isMerge origin p

/-- Trouble that is that of a repeated key only if two keys of some pairs do repeat each other. -/
def Doubled (origin : Nodes) (n : Node) (ps : List (Nat × Nat)) (e : Trouble) : Prop :=
  ∀ start shown place, e = .repeatedKey start shown place →
    start = n.start ∧ Nodes.RepeatedIn origin.Yields (withoutMerge origin ps)

theorem doubled_of_other {n : Node} {ps : List (Nat × Nat)} {e : Trouble} (h : e.Other) :
    Doubled origin n ps e :=
  fun start shown place heq => absurd heq (h start shown place)

theorem withoutMerge_append (ps qs : List (Nat × Nat)) :
    withoutMerge origin (ps ++ qs) = withoutMerge origin ps ++ withoutMerge origin qs :=
  List.filter_append ps qs

theorem withoutMerge_cons_of_merge {p : Nat × Nat} {ps : List (Nat × Nat)}
    (h : Merge.isMerge origin p = true) : withoutMerge origin (p :: ps) = withoutMerge origin ps :=
  List.filter_cons_of_neg (by simp [h])

theorem withoutMerge_cons {p : Nat × Nat} {ps : List (Nat × Nat)}
    (h : Merge.isMerge origin p = false) :
    withoutMerge origin (p :: ps) = p :: withoutMerge origin ps :=
  List.filter_cons_of_pos (by simp [h])

/-- A key that is alike one of those before repeats it. -/
theorem doubled_of_seen {n : Node} {before rest : List (Nat × Nat)} {p : Nat × Nat} {a b : Scalar}
    {place : Mark} (hp : Merge.isMerge origin p = false) (hb : origin.Yields p.1 b)
    (ha : ∃ q ∈ withoutMerge origin before, origin.Yields q.1 a) (h : repeats a b = true) :
    Doubled origin n (before ++ p :: rest) (.repeatedKey n.start b.literal place) := by
  intro start shown place' heq
  obtain ⟨-, -, hstart, -, -⟩ := Trouble.found.inj heq
  obtain ⟨q, hq, hqa⟩ := ha
  refine ⟨(Option.some.inj hstart).symm, q, p, a, b, ?_, hqa, hb, h⟩
  rw [withoutMerge_append, withoutMerge_cons hp]
  exact (List.singleton_sublist.mpr hq).append ((List.nil_sublist _).cons_cons p)

/-- Checked keys are apart from each other; a key found to repeat another one does so. The keys seen
are those of the pairs before. -/
theorem checkKeys_leads (hs : Proceeds origin root done s) (n : Node) {seen : List Scalar}
    (before : List (Nat × Nat)) {rest : List (Nat × Nat)} (hrest : Buildable origin root rest)
    (hseen : ∀ a ∈ seen, ∃ p ∈ withoutMerge origin before, origin.Yields p.1 a) :
    Leads (Proceeds origin root done) (Doubled origin n (before ++ rest)) s (checkKeys n seen rest)
      fun _ s' => s'.nodes = s.nodes ∧ Checked s' seen (withoutMerge origin rest) := by
  induction rest generalizing seen before s with
  | nil => exact .pure hs ⟨rfl, checked_nil _ _⟩
  | cons p rest ih =>
    obtain ⟨k, v⟩ := p
    have hsplit : before ++ (k, v) :: rest = (before ++ [(k, v)]) ++ rest := by simp
    have hkept (a : Scalar) (ha : a ∈ seen) :
        ∃ p ∈ withoutMerge origin (before ++ [(k, v)]), origin.Yields p.1 a := by
      obtain ⟨p, hp, hyields⟩ := hseen a ha
      exact ⟨p, withoutMerge_append before _ ▸ List.mem_append_left _ hp, hyields⟩
    obtain ⟨hk, hreached⟩ := hrest.key _ List.mem_cons_self
    rw [checkKeys]
    refine .node_bind ?_
    split
    · rename_i hmerge
      have hkey : Merge.isMerge origin (k, v) = true := by
        rw [← hs.kept.akin.isMerge, Merge.isMerge, hmerge]
        decide
      rw [hsplit, withoutMerge_cons_of_merge hkey]
      exact ih hs _ hrest.tail hkept
    · rename_i hmerge
      have hkey : Merge.isMerge origin (k, v) = false := by
        rw [← hs.kept.akin.isMerge]
        exact Merge.isMerge_eq_false_iff.mpr hmerge
      rw [withoutMerge_cons hkey]
      refine ((build_leads hs hreached).trouble fun _ => doubled_of_other).bind ?_
      rintro c s₁ hs₁ - ⟨heq₁, hc, hyields⟩
      rw [← heq₁]
      split
      · rename_i a
        split
        · rename_i hnew
          rw [hsplit]
          have hseen' (b : Scalar) (hb : b ∈ a :: seen) :
              ∃ p ∈ withoutMerge origin (before ++ [(k, v)]), origin.Yields p.1 b := by
            rcases List.mem_cons.mp hb with rfl | hb
            · refine ⟨(k, v), ?_, hyields b rfl⟩
              rw [withoutMerge_append, withoutMerge_cons hkey]
              exact List.mem_append_right _ List.mem_cons_self
            · exact hkept b hb
          refine (ih hs₁ _ hrest.tail hseen').imp ?_
          rintro _ s₂ - hstays ⟨heq₂, hchecked⟩
          exact ⟨heq₂, checked_scalar hstays (hc hk) (by simpa using hnew) hchecked⟩
        · rename_i hold
          obtain ⟨b, hb, hrepeats⟩ : ∃ b ∈ seen, repeats b a = true := by simpa using hold
          split
          · exact .fail (doubled_of_other (Trouble.other_failed _ _))
          · exact .fail (doubled_of_seen hkey (hyields a rfl) (hseen b hb) hrepeats)
      · rename_i hcollection
        rw [hsplit]
        refine (ih hs₁ _ hrest.tail hkept).imp ?_
        rintro _ s₂ - hstays ⟨heq₂, hchecked⟩
        exact ⟨heq₂, checked_collection hstays (hc hk) hcollection hchecked⟩

/-- Both sides of each pair are built, and the keys are scalars. -/
theorem entriesOf_leads (hs : Proceeds origin root done s) (n : Node)
    (entries : List (Scalar × Nat)) {pairs : List (Nat × Nat)}
    (hpairs : Buildable origin root pairs) :
    Leads (Proceeds origin root done) Trouble.Other s (entriesOf n entries pairs) fun _ s' =>
      s'.nodes = s.nodes ∧
        ∀ p ∈ pairs, (∃ a, s'.cell? p.1 = some (.scalar a)) ∧ s'.IsBuilt p.2 := by
  induction pairs generalizing entries s with
  | nil => exact .pure hs ⟨rfl, nofun⟩
  | cons p rest ih =>
    obtain ⟨k, v⟩ := p
    obtain ⟨hk, hreached⟩ := hpairs.key _ List.mem_cons_self
    obtain ⟨hv, hreached'⟩ := hpairs.value _ List.mem_cons_self
    rw [entriesOf]
    refine (build_leads hs hreached).bind ?_
    rintro c s₁ hs₁ - ⟨heq₁, hc, -⟩
    split
    · rename_i a
      have hnot := hs₁.ne_merge ⟨_, hc hk⟩
      refine (build_leads hs₁ fun _ => hreached' hnot).bind ?_
      rintro d s₂ hs₂ hstays₂ ⟨heq₂, hd, -⟩
      refine (ih hs₂ (assign entries a v) hpairs.tail).imp ?_
      rintro _ s₃ - hstays₃ ⟨heq₃, hbuilt⟩
      refine ⟨heq₃.trans (heq₂.trans heq₁), fun q hq => ?_⟩
      rcases List.mem_cons.mp hq with rfl | hq
      · exact ⟨⟨a, hstays₃.scalar (hstays₂.scalar (hc hk))⟩, hstays₃.isBuilt ⟨d, hd hv⟩⟩
      · exact hbuilt q hq
    · exact .node_bind (.fail (Trouble.other_of_take 7 (by decide) (by decide)))

end Entries

/-! ## Filling collections -/

/-- What filling a collection leads to: everything in it is built, and for a mapping, everything
that it takes over; the keys written in a mapping are scalars, apart from each other. -/
structure Filled (origin : Nodes) (s : DataState) (i : Nat) : Prop where
  keys : origin.IsTable i →
    (∀ p ∈ origin.ownPairs i, ∃ a, s.cell? p.1 = some (.scalar a)) ∧
      Checked s [] (origin.ownPairs i)
  pairs : origin.IsTable i → ∀ p, origin.Covers i p → s.IsBuilt p.1 ∧ s.IsBuilt p.2
  items : (origin.node i).tag = Tag.seq → ∀ j ∈ origin.itemsOf i, s.IsBuilt j
  itemPairs : origin.IsPairList i → ∀ m ∈ origin.itemsOf i, ∀ p, origin.Covers m p →
    s.IsBuilt p.1 ∧ s.IsBuilt p.2

/-- What a mapping takes over it still does, or it is built. -/
def Covered (origin : Nodes) (s : DataState) : Prop :=
  ∀ i p, origin.Covers i p → s.nodes.Covers i p ∨ s.IsBuilt p.1 ∧ s.IsBuilt p.2

/-- Where a key is found to repeat another, two written keys of the mapping repeat each other, or it
is a mapping with merge keys that other merge keys name. -/
def Explained (origin : Nodes) (e : Trouble) : Prop :=
  ∀ start shown place, e = .repeatedKey start shown place → ∃ i, (origin.node i).start = start ∧
    (origin.Repeats origin.Yields i ∨ origin.HasMerge i ∧ origin.Named i)

section Filling

variable {origin : Nodes} {root : Nat} {done : List Nat} {s s' : DataState} {i : Nat}

theorem explained_of_other {e : Trouble} (h : e.Other) : Explained origin e :=
  fun start shown place heq => absurd heq (h start shown place)

theorem Checked.mono {seen : List Scalar} {ps : List (Nat × Nat)} (h : Checked s seen ps)
    (hstays : Stays s s') : Checked s' seen ps := by
  have hback (p : Nat × Nat) (hp : p ∈ ps) (a : Scalar) (ha : s'.cell? p.1 = some (.scalar a)) :
      s.cell? p.1 = some (.scalar a) := by
    obtain ⟨c, hc⟩ := h.built p hp
    cases hstays.scalar_back hc ha
    exact hc
  refine ⟨fun p hp => hstays.isBuilt (h.built p hp), ?_, fun a ha p hp b hb => ?_⟩
  · exact h.apart.imp_of_mem fun hp hq hapart a b ha hb =>
      hapart a b (hback _ hp a ha) (hback _ hq b hb)
  · exact h.seen a ha p hp b (hback p hp b hb)

theorem Checked.sublist {seen : List Scalar} {ps qs : List (Nat × Nat)} (h : Checked s seen ps)
    (hsub : qs.Sublist ps) : Checked s seen qs :=
  ⟨fun p hp => h.built p (hsub.subset hp), h.apart.sublist hsub,
    fun a ha p hp => h.seen a ha p (hsub.subset hp)⟩

theorem Filled.mono (h : Filled origin s i) (hstays : Stays s s') : Filled origin s' i where
  keys htable := by
    obtain ⟨hscalars, hchecked⟩ := h.keys htable
    refine ⟨fun p hp => ?_, hchecked.mono hstays⟩
    obtain ⟨a, ha⟩ := hscalars p hp
    exact ⟨a, hstays.scalar ha⟩
  pairs htable p hp := by
    obtain ⟨hkey, hvalue⟩ := h.pairs htable p hp
    exact ⟨hstays.isBuilt hkey, hstays.isBuilt hvalue⟩
  items htag j hj := hstays.isBuilt (h.items htag j hj)
  itemPairs htag m hm p hp := by
    obtain ⟨hkey, hvalue⟩ := h.itemPairs htag m hm p hp
    exact ⟨hstays.isBuilt hkey, hstays.isBuilt hvalue⟩

theorem Covered.mono (h : Covered origin s) (hnodes : s'.nodes = s.nodes) (hstays : Stays s s') :
    Covered origin s' := by
  intro j p hp
  rcases h j p hp with hcovers | ⟨hkey, hvalue⟩
  · exact .inl (hnodes ▸ hcovers)
  · exact .inr ⟨hstays.isBuilt hkey, hstays.isBuilt hvalue⟩

/-- The pairs that a mapping holds in the course of merging are pairs of nodes, and reached if what
it takes over is. -/
theorem buildable_of_kept (hclosed : origin.Closed) {asked : Nat → Prop} {nodes : Nodes}
    (hkept : Kept origin asked nodes)
    (hreached : ∀ p, origin.Covers i p → origin.Reached root p.1 ∧ origin.Reached root p.2) :
    Buildable origin root (Merge.pairsOf nodes i) := by
  have hparts (p : Nat × Nat) (hp : p ∈ Merge.pairsOf nodes i) (k : Nat) (hk : k ∈ [p.1, p.2]) :
      k < origin.size := by
    obtain ⟨j, hj⟩ := hkept.written hp
    obtain ⟨pairs, hpairs⟩ := Nodes.isMapping_of_mem hj
    refine hclosed j k ?_
    rw [hpairs, Content.parts, List.mem_flatMap]
    rw [Merge.pairsOf, hpairs] at hj
    exact ⟨p, hj, hk⟩
  have hcovers (p : Nat × Nat) (hp : p ∈ Merge.pairsOf nodes i)
      (htag : (origin.node p.1).tag ≠ Tag.merge) : origin.Covers i p := by
    refine hkept.covers hp ?_
    rw [hkept.akin.isMerge]
    exact Merge.isMerge_eq_false_iff.mpr htag
  refine ⟨fun p hp => ⟨hparts p hp p.1 (by simp), fun htag => ?_⟩,
    fun p hp => ⟨hparts p hp p.2 (by simp), fun htag => ?_⟩⟩
  · exact (hreached p (hcovers p hp htag)).1
  · exact (hreached p (hcovers p hp htag)).2

theorem lt_of_mem_itemsOf (hclosed : origin.Closed) {j : Nat} (hj : j ∈ origin.itemsOf i) :
    j < origin.size := by
  unfold Nodes.itemsOf at hj
  split at hj
  · rename_i items hitems
    exact hclosed i j (by rw [hitems]; exact hj)
  · cases hj

theorem itemsOf_of_sequence (hs : Proceeds origin root done s) {items : List Nat}
    (h : (s.nodes.node i).content = .sequence items) : origin.itemsOf i = items := by
  rw [Nodes.itemsOf, hs.merged.origin_sequence h]

theorem sequenceItems_leads (hclosed : origin.Closed) (hs : Proceeds origin root done s)
    (hreached : ∀ j ∈ origin.itemsOf i, origin.Reached root j) :
    Leads (Proceeds origin root done) Trouble.Other s (sequenceItems i) fun _ s' =>
      s'.nodes = s.nodes ∧ ∀ j ∈ origin.itemsOf i, s'.IsBuilt j := by
  rw [sequenceItems]
  refine .node_bind ?_
  split
  · rename_i items hitems
    rw [← itemsOf_of_sequence hs hitems]
    exact (buildAll_leads hs fun j hj => ⟨lt_of_mem_itemsOf hclosed hj, hreached j hj⟩).bind
      fun _ s₁ hs₁ _ hbuilt => .pure hs₁ hbuilt
  · exact .fail (Trouble.other_bare _ _ _)

/-- An item of a list of pairs has a single pair, which is no merge key: no such key is built. -/
theorem pairItems_leads (hclosed : origin.Closed) (hs : Proceeds origin root done s)
    (hcovered : Covered origin s) {context : String}
    (hcontext : context ≠ "while constructing a mapping") (n : Node) {items : List Nat}
    (hreached : ∀ m ∈ items, ∀ p, origin.Covers m p →
      origin.Reached root p.1 ∧ origin.Reached root p.2) :
    Leads (Proceeds origin root done) Trouble.Other s (pairItems context n items) fun _ s' =>
      s'.nodes = s.nodes ∧
        ∀ m ∈ items, ∀ p, origin.Covers m p → s'.IsBuilt p.1 ∧ s'.IsBuilt p.2 := by
  induction items generalizing s with
  | nil => exact .pure hs ⟨rfl, nofun⟩
  | cons item items ih =>
    rw [pairItems]
    refine .node_bind ?_
    split
    · rename_i k v hcontent
      have hpairs : Merge.pairsOf s.nodes item = [(k, v)] := by rw [Merge.pairsOf, hcontent]
      have hbuildable := buildable_of_kept hclosed hs.kept (hreached item List.mem_cons_self)
      rw [hpairs] at hbuildable
      obtain ⟨hk, hkreached⟩ := hbuildable.key _ List.mem_cons_self
      obtain ⟨hv, hvreached⟩ := hbuildable.value _ List.mem_cons_self
      refine (build_leads hs hkreached).bind ?_
      rintro c s₁ hs₁ hstays₁ ⟨heq₁, hc, -⟩
      have hnot := hs₁.ne_merge ⟨c, hc hk⟩
      refine (build_leads hs₁ fun _ => hvreached hnot).bind ?_
      rintro d s₂ hs₂ hstays₂ ⟨heq₂, hd, -⟩
      have hcovered₂ := (hcovered.mono heq₁ hstays₁).mono heq₂ hstays₂
      refine (ih hs₂ hcovered₂ fun m hm => hreached m (List.mem_cons_of_mem item hm)).bind ?_
      rintro _ s₃ hs₃ hstays₃ ⟨heq₃, hbuilt⟩
      refine .pure hs₃ ⟨?_, fun m hm p hp => ?_⟩
      · exact heq₃.trans (heq₂.trans heq₁)
      · rcases List.mem_cons.mp hm with rfl | hm
        · rcases hcovered m p hp with hcovers | ⟨hkey, hvalue⟩
          · have hnone (q : Nat × Nat) (hq : q ∈ Merge.pairsOf s.nodes m) :
                Merge.isMerge s.nodes q = false := by
              rw [hpairs] at hq
              rw [hs.kept.akin.isMerge, List.mem_singleton.mp hq]
              exact Merge.isMerge_eq_false_iff.mpr hnot
            have hmem := hcovers.mem hnone
            rw [hpairs] at hmem
            obtain rfl := List.mem_singleton.mp hmem
            exact ⟨hstays₃.isBuilt (hstays₂.isBuilt ⟨c, hc hk⟩), hstays₃.isBuilt ⟨d, hd hv⟩⟩
          · have hstays := hstays₁.trans (hstays₂.trans hstays₃)
            exact ⟨hstays.isBuilt hkey, hstays.isBuilt hvalue⟩
        · exact hbuilt m hm p hp
    · exact .fail (Trouble.other_of_context hcontext)
    · exact .fail (Trouble.other_of_context hcontext)

theorem pairsOf_leads (hclosed : origin.Closed) (hs : Proceeds origin root done s)
    (hcovered : Covered origin s) {context : String}
    (hcontext : context ≠ "while constructing a mapping")
    (hreached : ∀ m ∈ origin.itemsOf i, ∀ p, origin.Covers m p →
      origin.Reached root p.1 ∧ origin.Reached root p.2) :
    Leads (Proceeds origin root done) Trouble.Other s (pairsOf context i) fun _ s' =>
      s'.nodes = s.nodes ∧
        ∀ m ∈ origin.itemsOf i, ∀ p, origin.Covers m p → s'.IsBuilt p.1 ∧ s'.IsBuilt p.2 := by
  rw [pairsOf]
  refine .node_bind ?_
  split
  · rename_i items hitems
    rw [itemsOf_of_sequence hs hitems] at hreached ⊢
    exact pairItems_leads hclosed hs hcovered hcontext _ hreached
  · exact .fail (Trouble.other_of_context hcontext)

/-- A repeated key is explained by the mapping in which it was found: it still holds what was
written in it, or it was resolved before it was filled. -/
theorem explained_of_doubled (hs : Proceeds origin root done s)
    (hnew : Merge.pairsOf s.nodes i ≠ Merge.pairsOf origin i → origin.Named i) {e : Trouble}
    (h : Doubled origin (s.nodes.node i) (Merge.pairsOf s.nodes i) e) : Explained origin e := by
  intro start shown place heq
  obtain ⟨hstart, hrepeated⟩ := h start shown place heq
  refine ⟨i, by rw [hstart, hs.kept.akin.start], ?_⟩
  by_cases hsame : Merge.pairsOf s.nodes i = Merge.pairsOf origin i
  · rw [hsame] at hrepeated
    exact .inl hrepeated
  · refine .inr ⟨?_, hnew hsame⟩
    by_contra hmerge
    refine hsame ?_
    rw [Merge.pairsOf, hs.merged.content i hmerge, Merge.pairsOf]

/-- What filling a mapping leads to. -/
theorem mappingEntries_leads (hclosed : origin.Closed) (hs : Proceeds origin root done s)
    (hcovered : Covered origin s) (hi : i ∈ done) (htable : origin.IsTable i)
    (hnew : Merge.pairsOf s.nodes i ≠ Merge.pairsOf origin i → origin.Named i) :
    Leads (Proceeds origin root done) (Explained origin) s (mappingEntries i) fun _ s' =>
      Covered origin s' ∧
        ((∀ p ∈ origin.ownPairs i, ∃ a, s'.cell? p.1 = some (.scalar a)) ∧
          Checked s' [] (origin.ownPairs i)) ∧
        ∀ p, origin.Covers i p → s'.IsBuilt p.1 ∧ s'.IsBuilt p.2 := by
  have hreached := hs.reached_of_done hi
  have hparts (p : Nat × Nat) (hp : origin.Covers i p) :
      origin.Reached root p.1 ∧ origin.Reached root p.2 :=
    ⟨.key hreached htable hp, .value hreached htable hp⟩
  rw [mappingEntries]
  refine .node_bind ?_
  split
  · split
    · exact .fail (explained_of_other (Trouble.other_bare _ _ _))
    · exact .fail (explained_of_other (Trouble.other_failed _ _))
  · split
    · exact .fail (explained_of_other (Trouble.other_bare _ _ _))
    · exact .node_bind (.fail (explained_of_other (Trouble.other_failed _ _)))
  · rename_i pairs hcontent
    have hpairs : Merge.pairsOf s.nodes i = pairs := by rw [Merge.pairsOf, hcontent]
    have hbuildable := buildable_of_kept hclosed hs.kept hparts
    rw [hpairs] at hbuildable
    refine ((checkKeys_leads hs (s.nodes.node i) [] hbuildable fun _ ha =>
      absurd ha List.not_mem_nil).trouble fun e he =>
        explained_of_doubled hs hnew (hpairs ▸ he)).bind ?_
    rintro _ s₁ hs₁ hstays₁ ⟨heq₁, hchecked⟩
    refine .get_bind ?_
    refine .lift_bind (fun e he => explained_of_other (Merge.other_of_resolve he))
      fun nodes hnodes => ?_
    have hgathers := Merge.gathers_of_resolve hnodes
    have hstays₂ : Stays s₁ { s₁ with nodes := nodes } := .of_cells rfl
    have hs₂ := hs₁.resolve hi hnodes
    refine .set_bind hstays₂ ?_
    refine ((entriesOf_leads hs₂ _ [] (buildable_of_kept hclosed hs₂.kept hparts)).trouble
      fun _ => explained_of_other).imp ?_
    rintro _ s₃ hs₃ hstays₃ ⟨heq₃, hbuilt⟩
    have hstays := hstays₂.trans hstays₃
    have hdone (p : Nat × Nat) (hp : p ∈ Merge.pairsOf nodes i) :
        s₃.IsBuilt p.1 ∧ s₃.IsBuilt p.2 := by
      obtain ⟨⟨a, ha⟩, hvalue⟩ := hbuilt p hp
      exact ⟨⟨_, ha⟩, hvalue⟩
    have hbefore := hcovered.mono heq₁ hstays₁
    refine ⟨fun j p hp => ?_, ⟨fun p hp => ?_, ?_⟩, fun p hp => ?_⟩
    · rcases hbefore j p hp with hcovers | ⟨hkey, hvalue⟩
      · rcases hgathers.covers j p hcovers with hcovers | hmem
        · exact .inl (heq₃ ▸ hcovers)
        · exact .inr (hdone p hmem)
      · exact .inr ⟨hstays.isBuilt hkey, hstays.isBuilt hvalue⟩
    · have hmem := (Nodes.mem_ownPairs.mp ((hs₂.kept.own i).subset hp)).1
      exact (hbuilt p hmem).1
    · have hsub : (origin.ownPairs i).Sublist (withoutMerge origin pairs) := by
        rw [withoutMerge, ← hpairs, ← hs.kept.akin.ownPairs]
        exact hs.kept.own i
      exact (hchecked.sublist hsub).mono hstays
    · rcases hbefore i p hp with hcovers | ⟨hkey, hvalue⟩
      · exact hdone p (hgathers.reached i (List.mem_singleton_self i) p hcovers)
      · exact ⟨hstays.isBuilt hkey, hstays.isBuilt hvalue⟩

/-- A collection is set to what it was filled with. -/
theorem refill_leads {E : Trouble → Prop} (hs : Proceeds origin root done s) (hi : i ∈ done)
    {c : Cell} (hcollection : c.scalar? = none) :
    Leads (Proceeds origin root done) E s (setCell i c) fun _ s' => s'.nodes = s.nodes := by
  obtain ⟨hs', hstays⟩ := hs.refill hi hcollection
  exact .of_ok rfl hs' hstays rfl

theorem Filled.of_table (htable : origin.IsTable i)
    (hkeys : (∀ p ∈ origin.ownPairs i, ∃ a, s.cell? p.1 = some (.scalar a)) ∧
      Checked s [] (origin.ownPairs i))
    (hpairs : ∀ p, origin.Covers i p → s.IsBuilt p.1 ∧ s.IsBuilt p.2) : Filled origin s i := by
  refine ⟨fun _ => hkeys, fun _ => hpairs, fun htag => ?_, fun htag => ?_⟩
  · rcases htable with h | h <;> exact absurd (h.symm.trans htag) (by decide)
  · rcases htable with h | h <;> rcases htag with htag | htag <;>
      exact absurd (h.symm.trans htag) (by decide)

theorem Filled.of_sequence (htag : (origin.node i).tag = Tag.seq)
    (hitems : ∀ j ∈ origin.itemsOf i, s.IsBuilt j) : Filled origin s i := by
  have htable : ¬ origin.IsTable i := by
    rintro (h | h) <;> exact absurd (htag.symm.trans h) (by decide)
  refine ⟨fun h => absurd h htable, fun h => absurd h htable, fun _ => hitems, ?_⟩
  rintro (h | h) <;> exact absurd (htag.symm.trans h) (by decide)

theorem Filled.of_pairList (hlist : origin.IsPairList i)
    (hpairs : ∀ m ∈ origin.itemsOf i, ∀ p, origin.Covers m p → s.IsBuilt p.1 ∧ s.IsBuilt p.2) :
    Filled origin s i := by
  have htable : ¬ origin.IsTable i := by
    rintro (h | h) <;> rcases hlist with hlist | hlist <;>
      exact absurd (h.symm.trans hlist) (by decide)
  refine ⟨fun h => absurd h htable, fun h => absurd h htable, fun h => ?_, fun _ => hpairs⟩
  rcases hlist with hlist | hlist <;> exact absurd (h.symm.trans hlist) (by decide)

/-- What filling a mapping or a set leads to. -/
theorem fillTable_leads (hclosed : origin.Closed) (hs : Proceeds origin root done s)
    (hcovered : Covered origin s) (hi : i ∈ done)
    (hnew : Merge.pairsOf s.nodes i ≠ Merge.pairsOf origin i → origin.Named i)
    (htable : origin.IsTable i) {fillWith : List (Scalar × Nat) → Cell}
    (hfill : ∀ entries, (fillWith entries).scalar? = none) :
    Leads (Proceeds origin root done) (Explained origin) s
      (mappingEntries i >>= fun entries => setCell i (fillWith entries)) fun _ s' =>
        Covered origin s' ∧ Filled origin s' i := by
  refine (mappingEntries_leads hclosed hs hcovered hi htable hnew).bind ?_
  rintro entries s₁ hs₁ - ⟨hcovered₁, hkeys, hpairs⟩
  refine (refill_leads hs₁ hi (hfill entries)).imp fun _ s₂ _ hstays₂ heq₂ => ?_
  exact ⟨hcovered₁.mono heq₂ hstays₂, (Filled.of_table htable hkeys hpairs).mono hstays₂⟩

/-- What filling a sequence leads to. -/
theorem fillSequence_leads (hclosed : origin.Closed) (hs : Proceeds origin root done s)
    (hcovered : Covered origin s) (hi : i ∈ done) (hseq : (origin.node i).tag = Tag.seq) :
    Leads (Proceeds origin root done) (Explained origin) s
      (sequenceItems i >>= fun items => setCell i (.list items)) fun _ s' =>
        Covered origin s' ∧ Filled origin s' i := by
  have hreached := hs.reached_of_done hi
  refine ((sequenceItems_leads hclosed hs fun j hj => .item hreached hseq hj).trouble
    fun _ => explained_of_other).bind ?_
  rintro items s₁ hs₁ hstays₁ ⟨heq₁, hbuilt⟩
  refine (refill_leads hs₁ hi rfl).imp fun _ s₂ _ hstays₂ heq₂ => ?_
  exact ⟨(hcovered.mono heq₁ hstays₁).mono heq₂ hstays₂,
    (Filled.of_sequence hseq hbuilt).mono hstays₂⟩

/-- What filling a list of pairs leads to. -/
theorem fillPairs_leads (hclosed : origin.Closed) (hs : Proceeds origin root done s)
    (hcovered : Covered origin s) (hi : i ∈ done) (hlist : origin.IsPairList i) {context : String}
    (hcontext : context ≠ "while constructing a mapping") :
    Leads (Proceeds origin root done) (Explained origin) s
      (pairsOf context i >>= fun pairs => setCell i (.pairs pairs)) fun _ s' =>
        Covered origin s' ∧ Filled origin s' i := by
  have hreached := hs.reached_of_done hi
  refine ((pairsOf_leads hclosed hs hcovered hcontext fun m hm p hp =>
    ⟨.pairKey hreached hlist hm hp, .pairValue hreached hlist hm hp⟩).trouble
      fun _ => explained_of_other).bind ?_
  rintro pairs s₁ hs₁ hstays₁ ⟨heq₁, hbuilt⟩
  refine (refill_leads hs₁ hi rfl).imp fun _ s₂ _ hstays₂ heq₂ => ?_
  exact ⟨(hcovered.mono heq₁ hstays₁).mono heq₂ hstays₂,
    (Filled.of_pairList hlist hbuilt).mono hstays₂⟩

/-- What filling one collection leads to. -/
theorem fill_leads (hclosed : origin.Closed) (hs : Proceeds origin root done s)
    (hcovered : Covered origin s) (hi : i ∈ done)
    (hnew : Merge.pairsOf s.nodes i ≠ Merge.pairsOf origin i → origin.Named i) :
    Leads (Proceeds origin root done) (Explained origin) s (fill i) fun _ s' =>
      Covered origin s' ∧ Filled origin s' i := by
  have htag {tag : String} (hdefault : tag ≠ Tag.default) (hstr : tag ≠ Tag.str) :
      (s.nodes.node i).tag = tag ↔ (origin.node i).tag = tag :=
    hs.merged.tag_eq_iff hdefault hstr
  have hkind := hs.kinds i (List.mem_append_left _ hi)
  rw [fill]
  refine .node_bind ?_
  dsimp only
  split
  · rename_i hmap
    have htable : origin.IsTable i := .inl ((htag (by decide) (by decide)).mp hmap)
    exact fillTable_leads hclosed hs hcovered hi hnew htable fun _ => rfl
  · rename_i hmap
    split
    · rename_i hset
      have htable : origin.IsTable i := .inr ((htag (by decide) (by decide)).mp hset)
      exact fillTable_leads hclosed hs hcovered hi hnew htable fun _ => rfl
    · rename_i hset
      have hno : ¬ origin.IsTable i := by
        rintro (h | h)
        · exact hmap ((htag (by decide) (by decide)).mpr h)
        · exact hset ((htag (by decide) (by decide)).mpr h)
      split
      · rename_i hseq
        exact fillSequence_leads hclosed hs hcovered hi ((htag (by decide) (by decide)).mp hseq)
      · rename_i hseq
        have hno' : (origin.node i).tag ≠ Tag.seq := mt (htag (by decide) (by decide)).mpr hseq
        have hlist := (hkind.resolve_left hno).resolve_left hno'
        split
        · exact fillPairs_leads hclosed hs hcovered hi hlist (by decide)
        · exact fillPairs_leads hclosed hs hcovered hi hlist (by decide)

/-! ## Filling all collections -/

/-- What is built is reached, every scalar is one that its node yields, and every collection is
filled. -/
structure Finished (origin : Nodes) (root : Nat) (s : DataState) : Prop where
  reached : ∀ i, s.IsBuilt i → origin.Reached root i
  yields : ∀ i a, s.cell? i = some (.scalar a) → origin.Yields i a
  filled : ∀ i c, s.cell? i = some c → c.scalar? = none → Filled origin s i

/-- The fuel lasts for all collections: those that were filled and those that may still be. -/
theorem fillAll_leads (hclosed : origin.Closed) (hs : Proceeds origin root done s)
    (hcovered : Covered origin s) (hfilled : ∀ i ∈ done, Filled origin s i) {fuel : Nat}
    (hfuel : origin.size < done.length + fuel) :
    Leads (fun _ => True) (Explained origin) s (fillAll fuel)
      fun _ s' => Finished origin root s' := by
  induction fuel generalizing done s with
  | zero => exact absurd hs.length_le (by omega)
  | succ fuel ih =>
    rw [fillAll]
    refine .get_bind ?_
    split
    · rename_i hwaiting
      refine .pure trivial ⟨hs.reached, hs.yields, fun i c hc hcollection => hfilled i ?_⟩
      have hmem := hs.collected i c hc hcollection
      rwa [hwaiting, List.append_nil] at hmem
    · rename_i i rest hwaiting
      obtain ⟨hs₁, hnew⟩ := hs.next hwaiting
      have hstays₁ : Stays s { s with waiting := rest } := .of_cells rfl
      refine .set_bind hstays₁ ?_
      refine (fill_leads hclosed hs₁ (hcovered.mono rfl hstays₁) (by simp) hnew).bind ?_
      rintro _ s₂ hs₂ hstays₂ ⟨hcovered₂, hi⟩
      refine ih hs₂ hcovered₂ (fun j hj => ?_) ?_
      · rcases List.mem_append.mp hj with hj | hj
        · exact (hfilled j hj).mono (hstays₁.trans hstays₂)
        · obtain rfl := List.mem_singleton.mp hj
          exact hi
      · rw [List.length_append, List.length_singleton]
        omega

theorem all_leads (hclosed : origin.Closed) (hs : Proceeds origin root [] s)
    (hcovered : Covered origin s) :
    Leads (fun _ => True) (Explained origin) s (all root) fun _ s' =>
      (root < origin.size → s'.IsBuilt root) ∧ Finished origin root s' := by
  rw [all]
  refine ((build_leads hs fun _ => .root).trouble fun _ => explained_of_other).bind ?_
  rintro c s₁ hs₁ hstays₁ ⟨heq₁, hc, -⟩
  refine .get_bind ?_
  have hfuel : origin.size < ([] : List Nat).length + (s₁.nodes.size + 1) := by
    rw [hs₁.kept.akin.size, List.length_nil]
    omega
  refine (fillAll_leads hclosed hs₁ (hcovered.mono heq₁ hstays₁)
    (fun _ hi => absurd hi List.not_mem_nil) hfuel).imp ?_
  exact fun _ s₂ _ hstays₂ hfinished => ⟨fun hroot => hstays₂.isBuilt ⟨c, hc hroot⟩, hfinished⟩

/-- A collection that is built was built into no scalar, so it is filled. -/
theorem Finished.filled_of_isCollection (h : Finished origin root s) (hbuilt : s.IsBuilt i)
    (hkind : origin.IsCollection i) : Filled origin s i := by
  obtain ⟨c, hc⟩ := hbuilt
  refine h.filled i c hc ?_
  cases c with
  | scalar a =>
    refine absurd (h.yields i a hc).tag ?_
    rcases hkind with (htag | htag) | htag | (htag | htag) <;> exact htag ▸ by decide
  | _ => rfl

/-- Everything that is reached from a root that is built is built: what is in a filled collection
is. -/
theorem Finished.isBuilt_of_reached (h : Finished origin root s) (hroot : s.IsBuilt root)
    (hi : origin.Reached root i) : s.IsBuilt i := by
  induction hi with
  | root => exact hroot
  | item _ htag hj ih => exact (h.filled_of_isCollection ih (.inr (.inl htag))).items htag _ hj
  | key _ htag hp ih => exact ((h.filled_of_isCollection ih (.inl htag)).pairs htag _ hp).1
  | value _ htag hp ih => exact ((h.filled_of_isCollection ih (.inl htag)).pairs htag _ hp).2
  | pairKey _ htag hm hp ih =>
    exact ((h.filled_of_isCollection ih (.inr (.inr htag))).itemPairs htag _ hm _ hp).1
  | pairValue _ htag hm hp ih =>
    exact ((h.filled_of_isCollection ih (.inr (.inr htag))).itemPairs htag _ hm _ hp).2

/-- The keys that a filled mapping has of its own do not repeat each other. -/
theorem Filled.not_repeats (h : Filled origin s i) (htable : origin.IsTable i) :
    ¬ origin.Repeats (fun k a => s.cell? k = some (.scalar a)) i := by
  rintro ⟨p, q, a, b, hsub, ha, hb, hrepeats⟩
  have hapart := (h.keys htable).2.apart.sublist hsub
  have hpq := List.rel_of_pairwise_cons hapart List.mem_cons_self a b ha hb
  rw [hrepeats] at hpq
  cases hpq

end Filling

end Builder

/-! ## The data of nodes -/

theorem proceeds_start (nodes : Nodes) (root : Nat) :
    Proceeds nodes root [] ⟨nodes, Array.replicate nodes.size none, []⟩ := by
  have hcell (i : Nat) (c : Cell) :
      (⟨nodes, Array.replicate nodes.size none, []⟩ : DataState).cell? i ≠ some c := by
    rw [cell?_start]
    exact nofun
  exact ⟨.refl nodes, .refl nodes _, Array.size_replicate, .nil,
    fun _ hi => absurd hi List.not_mem_nil, fun _ hi => absurd hi List.not_mem_nil,
    fun i c hc => absurd hc (hcell i c), fun i a ha => absurd ha (hcell i _),
    fun i ⟨c, hc⟩ => absurd hc (hcell i c)⟩

theorem leads_start {nodes : Nodes} (hclosed : nodes.Closed) (root : Nat) :
    Builder.Leads (fun _ => True) (Builder.Explained nodes)
      ⟨nodes, Array.replicate nodes.size none, []⟩ (Builder.all root) fun _ s' =>
        (root < nodes.size → s'.IsBuilt root) ∧ Builder.Finished nodes root s' :=
  Builder.all_leads hclosed (proceeds_start nodes root) fun _ _ hp => .inl hp

/-- The cells of the data of some nodes are finished. -/
theorem finished_of_ofNodes {nodes : Nodes} {root : Nat} {data : Data} (hclosed : nodes.Closed)
    (h : Data.ofNodes nodes root = .ok data) :
    ∃ s, s.cells = data.cells ∧ (root < nodes.size → s.IsBuilt root) ∧
      Builder.Finished nodes root s := by
  obtain ⟨⟨_, s⟩, hrun, h⟩ := bind_eq_ok_iff.mp h
  cases h
  exact ⟨s, rfl, ((leads_start hclosed root).ok hrun).2.2⟩

/-- A repeated key that stops the building of data is explained by the nodes. -/
theorem explained_of_ofNodes {nodes : Nodes} {root : Nat} {e : Trouble} (hclosed : nodes.Closed)
    (h : Data.ofNodes nodes root = .error e) : Builder.Explained nodes e := by
  rcases bind_eq_error_iff.mp h with h | ⟨_, _, h⟩
  · exact (leads_start hclosed root).error h
  · cases h

end CaseGrid.Yaml
