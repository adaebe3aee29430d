import CaseGrid.Proofs.Yaml.Operations

/-
  Building the data of a document keeps the invariant on its cells (`Sound`), and ends with trouble
  with the text where it does not end with data, if all nodes are regular.

  Proved: each operation keeps the invariant (`Ends`, one lemma for each), so `sound_of_ofNodes`
  holds of the data of any nodes, and `not_breaks_of_ofNodes` of what stops it.
-/

namespace CaseGrid.Yaml

open CaseGrid.Text (Points)

namespace Builder

/-! ## Operations that keep the invariant -/

section Ends

variable {origin : Nodes} {s : DataState} {α β : Type}

/--
How an operation ends that keeps the invariant: with a result of which something holds, nothing that
was built before being changed, or with trouble, which is trouble with the text where all nodes are
regular.
-/
abbrev Ends (origin : Nodes) (s : DataState) (x : Builder α) (Q : α → DataState → Prop) : Prop :=
  Leads (Sound origin) (fun e => origin.Regular → ¬ e.Breaks) s x Q

theorem found_ends {Q : α → DataState → Prop} {stage : Stage} {context : Option String}
    {start : Option Mark} {problem : String} {place : Mark} :
    Ends origin s (Builder.fail (.found stage context start problem place)) Q :=
  .fail fun _ => Trouble.not_breaks_found

theorem setCell_ends (hs : Sound origin s) {i : Nat} {c : Cell}
    (hkeep : ∀ c₀, s.cell? i = some c₀ → c.scalar? = c₀.scalar?) (hc : Built origin s i c) :
    Ends origin s (setCell i c) fun _ s' =>
      s'.nodes = s.nodes ∧ s'.waiting = s.waiting ∧ (i < origin.size → s'.cell? i = some c) := by
  obtain ⟨hsound, hstays⟩ := hs.set hkeep hc
  refine .of_ok rfl hsound hstays ⟨rfl, rfl, fun hi => ?_⟩
  rw [cell?_set, if_pos ⟨rfl, hs.size.symm ▸ hi⟩]

theorem wrongKind_ends {Q : α → DataState → Prop} (n : Node) (expected : String) :
    Ends origin s (wrongKind n expected) Q :=
  found_ends

end Ends

/-! ## Scalars -/

section Scalars

variable {origin : Nodes} {s s' : DataState}

/-- Reading a text changes nothing. -/
theorem textOf_run {fuel i : Nat} {text : Points} (h : (textOf fuel i).run s = .ok (text, s')) :
    s' = s := by
  induction fuel generalizing i with
  | zero => cases h
  | succ fuel ih =>
    rw [textOf] at h
    obtain ⟨n, _, hnode, h⟩ := run_bind_eq_ok_iff.mp h
    cases hnode
    split at h
    · exact (run_pure_eq_ok_iff.mp h).2
    · cases h
    · obtain ⟨_, _, hget, h⟩ := run_bind_eq_ok_iff.mp h
      cases hget
      dsimp only at h
      split at h
      · exact ih h
      · cases h

/-- Where the nodes are regular, only a scalar stands where the text of a scalar is wanted, unless
it is a sequence, which is reported. -/
theorem textOf_ends (hs : Sound origin s) (fuel : Nat) {i : Nat}
    (htag : (origin.node i).tag = Tag.default ∨ (origin.node i).tag ∈ Tag.scalars) :
    Ends origin s (textOf (fuel + 1) i) fun text s' =>
      s' = s ∧ (origin.Regular → (origin.node i).content = .scalar text) := by
  cases hcontent : (origin.node i).content with
  | scalar text =>
    rw [textOf]
    refine .node_bind ?_
    rw [hs.merged.content_scalar hcontent]
    exact .pure hs ⟨rfl, fun _ => rfl⟩
  | sequence items =>
    rw [textOf]
    refine .node_bind ?_
    rw [hs.merged.content_sequence hcontent]
    exact wrongKind_ends _ _
  | mapping pairs =>
    have hirregular : ¬ origin.Regular := by
      intro hregular
      have hi := hregular i
      rw [Node.Regular, hcontent] at hi
      exact htag.elim hi.1 hi.2
    match hrun : (textOf (fuel + 1) i).run s with
    | .ok (text, s') =>
      cases textOf_run hrun
      exact .of_ok hrun hs (.refl s) ⟨rfl, fun hregular => absurd hregular hirregular⟩
    | .error e => exact .of_error hrun fun hregular => absurd hregular hirregular

/-- What is known of the scalar of a node: finding it changes nothing, it can be written where the
nodes are regular, and there is one if the tag is one of a scalar. -/
def ScalarOf (origin : Nodes) (s : DataState) (i : Nat) (found : Option Scalar)
    (s' : DataState) : Prop :=
  s' = s ∧ (∀ a, found = some a → origin.Regular → a.isTooLong = false) ∧
    (found = none → (s.nodes.node i).tag ∉ Tag.scalars)

theorem scalarOf_some {i : Nat} {a : Scalar} (h : origin.Regular → a.isTooLong = false) :
    ScalarOf origin s i (some a) s :=
  ⟨rfl, fun _ hb => Option.some.inj hb ▸ h, nofun⟩

/-- Merging makes texts of keys for default values, and leaves all other tags as they are. -/
theorem origin_tag_of_scalars (hs : Sound origin s) {i : Nat}
    (htag : (s.nodes.node i).tag ∈ Tag.scalars) :
    (origin.node i).tag = Tag.default ∨ (origin.node i).tag ∈ Tag.scalars := by
  rcases hs.merged.tag i with heq | ⟨hdefault, -⟩
  · exact .inr (heq ▸ htag)
  · exact .inl hdefault

theorem readable_of_scalar {i : Nat} {text : Points} (hregular : origin.Regular)
    (hcontent : (origin.node i).content = .scalar text) :
    Readable i (origin.node i).tag text := by
  have hi := hregular i
  rwa [Node.Regular, hcontent] at hi

theorem readable_of_tag (hs : Sound origin s) {i : Nat} (hstr : (s.nodes.node i).tag ≠ Tag.str)
    {text : Points} (hregular : origin.Regular)
    (hcontent : (origin.node i).content = .scalar text) :
    Readable i (s.nodes.node i).tag text := by
  rcases hs.merged.tag i with heq | ⟨-, htext⟩
  · exact heq ▸ readable_of_scalar hregular hcontent
  · exact absurd htext hstr

/-- A tagged scalar whose tag reads its text and can be written. -/
theorem reading_ends {β : Type} (hs : Sound origin s) (fuel : Nat) {i : Nat}
    (read : Points → Except Trouble β) (wrap : β → Scalar)
    (htag : (s.nodes.node i).tag ∈ Tag.scalars)
    (hread : ∀ text, origin.Regular → (origin.node i).content = .scalar text →
      (∀ v, read text = .ok v → (wrap v).isTooLong = false) ∧
        ∀ e, read text = .error e → ¬ e.Breaks) :
    Ends origin s
      (do
        let text ← textOf (fuel + 1) i
        let v ← StateT.lift (read text)
        return some (wrap v))
      (ScalarOf origin s i) := by
  refine (textOf_ends hs fuel (origin_tag_of_scalars hs htag)).bind
    fun text s' hs' _ ⟨hs'', htext⟩ => ?_
  subst hs''
  refine (Leads.lift hs' (Q := fun v t => t = s' ∧ read text = .ok v)
    (fun v hv => ⟨rfl, hv⟩) fun e he hregular => ?_).bind fun v t ht _ ⟨hts, hv⟩ => ?_
  · exact (hread text hregular (htext hregular)).2 e he
  · subst hts
    exact .pure ht (scalarOf_some fun hregular => (hread text hregular (htext hregular)).1 v hv)

theorem isTooLong_of_readTimestamp {text : Points} {a : Scalar}
    (h : Tagged.readTimestamp text = .ok a) : a.isTooLong = false := by
  unfold Tagged.readTimestamp at h
  dsimp only at h
  split at h
  · cases h
  · obtain ⟨d, -, rfl⟩ := map_eq_ok_iff.mp (mapError_eq_ok_iff.mp h)
    rfl
  · obtain ⟨d, -, rfl⟩ := map_eq_ok_iff.mp (mapError_eq_ok_iff.mp h)
    rfl

theorem not_breaks_of_readBinary {place : Mark} {text : Points} {e : Trouble}
    (h : Tagged.readBinary place text = .error e) : ¬ e.Breaks := by
  unfold Tagged.readBinary at h
  split at h
  · cases h
    exact Trouble.not_breaks_found
  · obtain ⟨why, -, rfl⟩ := mapError_eq_error_iff.mp h
    exact Trouble.not_breaks_found

theorem isTooLong_ofPoints (text : Points) : (Scalar.ofPoints text).isTooLong = false := by
  unfold Scalar.ofPoints
  split <;> rfl

/-- What reading fails on where it succeeds on all texts of a node. -/
theorem not_error_of_ok {β : Type} {x : Except Trouble β} (h : ∃ v, x = .ok v) {e : Trouble}
    (he : x = .error e) : ¬ e.Breaks := by
  obtain ⟨v, hv⟩ := h
  rw [hv] at he
  cases he

/-- A time is read of a scalar only; what stands elsewhere has no text that could be one. -/
theorem timestamp_ends (hs : Sound origin s) (fuel : Nat) {i : Nat}
    (htag : (s.nodes.node i).tag = Tag.timestamp) :
    Ends origin s
      (do
        let t ← textOf (fuel + 1) i
        match (s.nodes.node i).content with
        | .scalar _ => return some (← StateT.lift (Tagged.readTimestamp t))
        | _ => fail (.failed .type "expected string or bytes-like object, got 'list'"))
      (ScalarOf origin s i) := by
  have hscalar : (s.nodes.node i).tag ∈ Tag.scalars := htag ▸ by decide
  have hstr : (s.nodes.node i).tag ≠ Tag.str := htag ▸ by decide
  refine (textOf_ends hs fuel (origin_tag_of_scalars hs hscalar)).bind
    fun text s' hs' _ ⟨hs'', htext⟩ => ?_
  subst hs''
  split
  · refine (Leads.lift hs' (Q := fun a t => t = s' ∧ Tagged.readTimestamp text = .ok a)
      (fun a ha => ⟨rfl, ha⟩) fun e he hregular => ?_).bind fun a t ht _ ⟨hts, ha⟩ => ?_
    · have hread := (readable_of_tag hs' hstr hregular (htext hregular)).timestamp htag
      exact not_error_of_ok hread he
    · subst hts
      exact .pure ht (scalarOf_some fun _ => isTooLong_of_readTimestamp ha)
  · rename_i hcontent
    refine .fail fun hregular => ?_
    exact absurd (hs'.merged.content_scalar (htext hregular)) (hcontent text)

theorem scalar?_ends (hs : Sound origin s) (fuel i : Nat) :
    Ends origin s (scalar? i (s.nodes.node i) (textOf (fuel + 1) i)) (ScalarOf origin s i) := by
  -- The tags are asked for in this order. Merging makes texts only, so each case but the first has
  -- the tag that was given.
  unfold scalar?
  by_cases hstr : (s.nodes.node i).tag = Tag.str
  · rw [if_pos hstr]
    have horigin := origin_tag_of_scalars hs (i := i) (hstr ▸ by decide)
    refine (textOf_ends hs fuel horigin).bind fun text s' hs' _ ⟨hs'', _⟩ => ?_
    subst hs''
    exact .pure hs' (scalarOf_some fun _ => isTooLong_ofPoints text)
  rw [if_neg hstr]
  by_cases hnull : (s.nodes.node i).tag = Tag.null
  · rw [if_pos hnull]
    have horigin := origin_tag_of_scalars hs (i := i) (hnull ▸ by decide)
    refine (textOf_ends hs fuel horigin).bind fun text s' hs' _ ⟨hs'', _⟩ => ?_
    subst hs''
    exact .pure hs' (scalarOf_some fun _ => rfl)
  rw [if_neg hnull]
  by_cases hbool : (s.nodes.node i).tag = Tag.bool
  · rw [if_pos hbool]
    refine reading_ends hs fuel Tagged.readBool .bool (hbool ▸ by decide)
      fun text hregular hcontent => ?_
    have hread := (readable_of_tag hs hstr hregular hcontent).bool hbool
    exact ⟨fun _ _ => rfl, fun _ => not_error_of_ok hread⟩
  rw [if_neg hbool]
  by_cases hint : (s.nodes.node i).tag = Tag.int
  · rw [if_pos hint]
    refine reading_ends hs fuel Tagged.readInteger .int (hint ▸ by decide)
      fun text hregular hcontent => ?_
    obtain ⟨n, hn, hshort⟩ := (readable_of_tag hs hstr hregular hcontent).int hint
    refine ⟨fun m hm => ?_, fun _ => not_error_of_ok ⟨n, hn⟩⟩
    cases hn.symm.trans hm
    exact hshort
  rw [if_neg hint]
  by_cases hfloat : (s.nodes.node i).tag = Tag.float
  · rw [if_pos hfloat]
    refine reading_ends hs fuel (Tagged.readDouble (markOf i)) .float (hfloat ▸ by decide)
      fun text hregular hcontent => ?_
    have hread := (readable_of_tag hs hstr hregular hcontent).float hfloat
    exact ⟨fun _ _ => rfl, fun _ => not_error_of_ok hread⟩
  rw [if_neg hfloat]
  by_cases htime : (s.nodes.node i).tag = Tag.timestamp
  · rw [if_pos htime]
    exact timestamp_ends hs fuel htime
  rw [if_neg htime]
  by_cases hbinary : (s.nodes.node i).tag = Tag.binary
  · rw [if_pos hbinary]
    refine reading_ends hs fuel (Tagged.readBinary (s.nodes.node i).start) .bytes
      (hbinary ▸ by decide) fun text _ _ => ?_
    exact ⟨fun _ _ => rfl, fun _ => not_breaks_of_readBinary⟩
  rw [if_neg hbinary]
  refine .pure hs ⟨rfl, nofun, fun _ hmem => ?_⟩
  simp only [Tag.scalars, List.mem_cons, List.not_mem_nil, or_false] at hmem
  tauto

end Scalars

/-! ## Single nodes -/

section Nodes

variable {origin : Nodes} {s : DataState}

theorem emptyCell?_scalar? {tag : String} {c : Cell} (h : emptyCell? tag = some c) :
    c.scalar? = none := by
  unfold emptyCell? at h
  repeat' split at h
  all_goals cases h
  all_goals rfl

theorem built_emptyCell? {tag : String} {c : Cell} {i : Nat} (h : emptyCell? tag = some c) :
    Built origin s i c := by
  unfold emptyCell? at h
  repeat' split at h
  all_goals cases h
  · exact ⟨fun _ => by simp, .inl rfl⟩
  · exact .inl rfl
  · exact fun _ => by simp
  · exact .inl rfl

/-- A node that is waiting to be filled is one that was built into a collection. -/
theorem wait_ends (hs : Sound origin s) {i : Nat} {c : Cell} (hc : s.cell? i = some c)
    (hcollection : c.scalar? = none) :
    Ends origin s (modify fun s => { s with waiting := s.waiting ++ [i] } : Builder Unit)
      fun _ s' => s'.cells = s.cells := by
  refine .of_ok rfl ⟨hs.merged, hs.size, fun j hj => ?_, hs.built⟩ (.of_cells rfl) rfl
  rcases List.mem_append.mp hj with hj | hj
  · exact hs.waiting j hj
  · obtain rfl := List.mem_singleton.mp hj
    exact ⟨c, hc, hcollection⟩

/-- What a node is built into is in its cell, and where the nodes are regular it can be written. -/
theorem build_ends (hs : Sound origin s) (i : Nat) :
    Ends origin s (build i) fun c s' => (i < origin.size → s'.cell? i = some c) ∧
      ∀ a, c = .scalar a → origin.Regular → a.isTooLong = false := by
  unfold build
  refine .cell?_bind ?_
  cases hcell : s.cell? i with
  | some c =>
    refine .pure hs ⟨fun _ => hcell, fun a ha => ?_⟩
    have hbuilt := hs.built i c hcell
    rw [ha] at hbuilt
    exact hbuilt
  | none =>
    refine .node_bind ?_
    refine .get_bind ?_
    refine (scalar?_ends hs _ i).bind fun a s₄ hs₄ _ ⟨heq₄, hshort, hnone⟩ => ?_
    subst heq₄
    cases a with
    | some a =>
      refine (setCell_ends hs₄ (i := i) (c := .scalar a) (by simp [hcell]) (hshort a rfl)).bind
        fun _ s₅ hs₅ _ ⟨_, _, hset⟩ => ?_
      exact .pure hs₅ ⟨hset, fun b hb => Cell.scalar.inj hb ▸ hshort a rfl⟩
    | none =>
      cases hempty : emptyCell? (s₄.nodes.node i).tag with
      | none => exact found_ends
      | some c =>
        -- Past the last node there is an empty text, so what is no scalar is one of the nodes.
        have hlt : i < origin.size := by
          by_contra hge
          refine hnone rfl ?_
          rw [Nodes.node_of_ge (by rw [hs₄.merged.size]; omega)]
          decide
        refine (setCell_ends hs₄ (i := i) (c := c) (by simp [hcell])
          (built_emptyCell? hempty)).bind fun _ s₅ hs₅ _ ⟨_, _, hset⟩ => ?_
        refine (wait_ends hs₅ (hset hlt) (emptyCell?_scalar? hempty)).bind
          fun _ s₆ hs₆ hstays₆ hcells => ?_
        refine .pure hs₆ ⟨fun _ => ?_, ?_⟩
        · rw [DataState.cell?, hcells]
          exact hset hlt
        · rintro a rfl
          cases emptyCell?_scalar? hempty

end Nodes

/-! ## Mappings -/

section Mappings

variable {origin : Nodes} {s : DataState}

/-- The keys of pairs are no merge keys, and are nodes. -/
def Plain (origin : Nodes) (pairs : List (Nat × Nat)) : Prop :=
  ∀ p ∈ pairs, (origin.node p.1).tag ≠ Tag.merge ∧ p.1 < origin.size

theorem Plain.tail {p : Nat × Nat} {pairs : List (Nat × Nat)} (h : Plain origin (p :: pairs)) :
    Plain origin pairs :=
  fun q hq => h q (List.mem_cons_of_mem p hq)

theorem plain_of_mapping (hclosed : origin.Closed) {i : Nat} {pairs : List (Nat × Nat)}
    (hpairs : (origin.node i).content = .mapping pairs) (hmerge : ¬ origin.HasMerge i) :
    Plain origin pairs := by
  intro p hp
  refine ⟨fun htag => hmerge ⟨pairs, hpairs, p, hp, htag⟩, hclosed i p.1 ?_⟩
  rw [hpairs, Content.parts, List.mem_flatMap]
  exact ⟨p, hp, List.mem_cons_self⟩

/-- Merging leaves the pairs of a mapping without merge keys. -/
theorem pairsOf_of_merged {nodes : Nodes} (h : Merged origin nodes) {i : Nat}
    {pairs : List (Nat × Nat)} (hpairs : (origin.node i).content = .mapping pairs)
    (hmerge : ¬ origin.HasMerge i) : Merge.pairsOf nodes i = pairs := by
  rw [Merge.pairsOf, h.content i hmerge, hpairs]

/-- What is known once keys were checked: they are built, and those that are scalars are apart from
each other and from those seen before. -/
structure Checked (s : DataState) (seen : List Scalar) (pairs : List (Nat × Nat)) : Prop where
  built : ∀ p ∈ pairs, ∃ c, s.cell? p.1 = some c
  apart : pairs.Pairwise fun p q => ∀ a b, s.cell? p.1 = some (.scalar a) →
    s.cell? q.1 = some (.scalar b) → repeats a b = false
  seen : ∀ a ∈ seen, ∀ p ∈ pairs, ∀ b, s.cell? p.1 = some (.scalar b) → repeats a b = false

theorem checked_nil (s : DataState) (seen : List Scalar) : Checked s seen [] :=
  ⟨fun _ hp => absurd hp List.not_mem_nil, .nil, fun _ _ _ hp => absurd hp List.not_mem_nil⟩

theorem checked_scalar {s' : DataState} {seen : List Scalar} {k v : Nat}
    {rest : List (Nat × Nat)} {a : Scalar} (hstays : Stays s s')
    (hk : s.cell? k = some (.scalar a)) (hnew : ∀ b ∈ seen, repeats b a = false)
    (h : Checked s' (a :: seen) rest) : Checked s' seen ((k, v) :: rest) := by
  have hk' := hstays.scalar hk
  refine ⟨fun p hp => ?_, List.pairwise_cons.mpr ⟨fun q hq c d hc hd => ?_, h.apart⟩,
    fun b hb p hp c hc => ?_⟩
  · rcases List.mem_cons.mp hp with rfl | hp
    · exact ⟨_, hk'⟩
    · exact h.built p hp
  · cases hk'.symm.trans hc
    exact h.seen a List.mem_cons_self q hq d hd
  · rcases List.mem_cons.mp hp with rfl | hp
    · cases hk'.symm.trans hc
      exact hnew b hb
    · exact h.seen b (List.mem_cons_of_mem a hb) p hp c hc

theorem checked_collection {s' : DataState} {seen : List Scalar} {k v : Nat}
    {rest : List (Nat × Nat)} {c : Cell} (hstays : Stays s s') (hk : s.cell? k = some c)
    (hc : ∀ a, c ≠ .scalar a) (h : Checked s' seen rest) : Checked s' seen ((k, v) :: rest) := by
  have hnone (a : Scalar) : s'.cell? k ≠ some (.scalar a) :=
    fun ha => hc a (hstays.scalar_back hk ha)
  refine ⟨fun p hp => ?_, List.pairwise_cons.mpr ⟨fun q _ a _ ha => absurd ha (hnone a), h.apart⟩,
    fun b hb p hp d hd => ?_⟩
  · rcases List.mem_cons.mp hp with rfl | hp
    · obtain ⟨c', hc', -⟩ := hstays k c hk
      exact ⟨c', hc'⟩
    · exact h.built p hp
  · rcases List.mem_cons.mp hp with rfl | hp
    · exact absurd hd (hnone d)
    · exact h.seen b hb p hp d hd

/-- Keys that are all scalars are apart from each other once they were checked. -/
theorem Checked.keysApart {seen : List Scalar} {pairs : List (Nat × Nat)} {keys : List Scalar}
    (h : Checked s seen pairs) (hkeys : KeysAre s pairs keys) : KeysApart keys := by
  have hpairwise := h.apart
  clear h
  induction hkeys with
  | nil => exact .nil
  | @cons p a ps as ha hrest ih =>
    obtain ⟨hfirst, hpairwise⟩ := List.pairwise_cons.mp hpairwise
    refine List.pairwise_cons.mpr ⟨fun b hb => ?_, ih hpairwise⟩
    obtain ⟨q, hq, hqb⟩ := KeysAre.exists_of_mem hrest hb
    exact hfirst q hq a b ha hqb

theorem checkKeys_ends (hs : Sound origin s) (n : Node) (seen : List Scalar)
    (pairs : List (Nat × Nat)) :
    Ends origin s (checkKeys n seen pairs) fun _ s' =>
      Plain origin pairs → Checked s' seen pairs := by
  induction pairs generalizing seen s with
  | nil =>
    exact .pure hs fun _ => checked_nil _ _
  | cons p rest ih =>
    obtain ⟨k, v⟩ := p
    rw [checkKeys]
    refine .node_bind ?_
    split
    · rename_i hmerge
      refine (ih hs seen).imp fun _ _ _ _ _ hplain => ?_
      exact absurd (hs.merged.tag_merge_iff.mp hmerge) (hplain _ List.mem_cons_self).1
    · refine (build_ends hs k).bind fun c s₁ hs₁ _ ⟨hc, hshort⟩ => ?_
      split
      · rename_i a _
        split
        · rename_i hnew
          refine (ih hs₁ (a :: seen)).imp fun _ s₂ _ hstays hrest hplain => ?_
          refine checked_scalar hstays (hc (hplain _ List.mem_cons_self).2) ?_ (hrest hplain.tail)
          simpa using hnew
        · split
          · rename_i hlong
            refine .fail fun hregular => ?_
            rw [hshort a rfl hregular] at hlong
            cases hlong
          · exact found_ends
      · rename_i hcollection
        refine (ih hs₁ seen).imp fun _ s₂ _ hstays hrest hplain => ?_
        exact checked_collection hstays (hc (hplain _ List.mem_cons_self).2) hcollection
          (hrest hplain.tail)

theorem mem_assign {entries : List (Scalar × Nat)} {key : Scalar} {v : Nat} {e : Scalar × Nat}
    (h : e ∈ assign entries key v) : e.1 = key ∨ ∃ e' ∈ entries, e'.1 = e.1 := by
  induction entries with
  | nil =>
    obtain rfl := List.mem_singleton.mp h
    exact .inl rfl
  | cons x entries ih =>
    obtain ⟨k, w⟩ := x
    rw [assign] at h
    split at h
    · rcases List.mem_cons.mp h with rfl | h
      · exact .inr ⟨(k, w), List.mem_cons_self, rfl⟩
      · exact .inr ⟨e, List.mem_cons_of_mem _ h, rfl⟩
    · rcases List.mem_cons.mp h with rfl | h
      · exact .inr ⟨(k, w), List.mem_cons_self, rfl⟩
      · rcases ih h with hkey | ⟨e', he', heq⟩
        · exact .inl hkey
        · exact .inr ⟨e', List.mem_cons_of_mem _ he', heq⟩

/-- Entries whose keys can be written. -/
def Short (entries : List (Scalar × Nat)) : Prop :=
  ∀ e ∈ entries, e.1.isTooLong = false

theorem Short.assign {entries : List (Scalar × Nat)} {key : Scalar} {v : Nat} (h : Short entries)
    (hkey : key.isTooLong = false) : Short (assign entries key v) := by
  intro e he
  rcases mem_assign he with rfl | ⟨e', he', heq⟩
  · exact hkey
  · exact heq ▸ h e' he'

theorem entriesOf_ends (hs : Sound origin s) (n : Node) (entries : List (Scalar × Nat))
    (pairs : List (Nat × Nat)) (hentries : origin.Regular → Short entries) :
    Ends origin s (entriesOf n entries pairs) fun result s' => (origin.Regular → Short result) ∧
      (Plain origin pairs →
        ∃ keys, KeysAre s' pairs keys ∧ result = assignAll entries keys (pairs.map (·.2))) := by
  induction pairs generalizing entries s with
  | nil => exact .pure hs ⟨hentries, fun _ => ⟨[], .nil, rfl⟩⟩
  | cons p rest ih =>
    obtain ⟨k, v⟩ := p
    rw [entriesOf]
    refine (build_ends hs k).bind fun c s₁ hs₁ _ ⟨hc, hshort⟩ => ?_
    split
    · rename_i a _
      refine (build_ends hs₁ v).bind fun _ s₂ hs₂ hstays₂ _ => ?_
      refine (ih hs₂ (assign entries a v) fun hregular =>
        (hentries hregular).assign (hshort a rfl hregular)).imp
        fun result s₃ _ hstays₃ ⟨hresult, hrest⟩ => ⟨hresult, fun hplain => ?_⟩
      obtain ⟨keys, hkeys, heq⟩ := hrest hplain.tail
      have hk := hstays₃.scalar (hstays₂.scalar (hc (hplain _ List.mem_cons_self).2))
      exact ⟨a :: keys, .cons hk hkeys, heq⟩
    · exact .node_bind found_ends

/-- Keys that are scalars now were the same scalars when they were built. -/
theorem keysAre_back {s' : DataState} {pairs : List (Nat × Nat)} {keys : List Scalar}
    (hstays : Stays s s') (hbuilt : ∀ p ∈ pairs, ∃ c, s.cell? p.1 = some c)
    (h : KeysAre s' pairs keys) : KeysAre s pairs keys := by
  induction h with
  | nil => exact .nil
  | cons ha _ ih =>
    obtain ⟨c, hc⟩ := hbuilt _ List.mem_cons_self
    cases hstays.scalar_back hc ha
    exact .cons hc (ih fun p hp => hbuilt p (List.mem_cons_of_mem _ hp))

/-- What a mapping without merge keys is filled with describes it. -/
theorem mappingEntries_ends (hclosed : origin.Closed) (hs : Sound origin s) {i : Nat}
    (htag : (origin.node i).tag = Tag.map ∨ (origin.node i).tag = Tag.set) :
    Ends origin s (mappingEntries i) fun result s' => (origin.Regular → Short result) ∧
      ∀ pairs, (origin.node i).content = .mapping pairs → ¬ origin.HasMerge i →
        Describes s' pairs result := by
  rw [mappingEntries]
  refine .node_bind ?_
  split
  · rename_i text hcontent
    split
    · exact wrongKind_ends _ _
    · rename_i hne
      refine .fail fun hregular => ?_
      have hread := readable_of_scalar hregular (hs.merged.origin_scalar hcontent)
      have hempty := hread.collection htag
      rw [hempty] at hne
      exact absurd rfl hne
  · rename_i items hcontent
    split
    · exact wrongKind_ends _ _
    · refine .node_bind (.fail fun hregular => ?_)
      have hi := hregular i
      rw [Node.Regular, hs.merged.origin_sequence hcontent] at hi
      cases hi htag
  · rename_i pairs hcontent
    refine (checkKeys_ends hs _ [] pairs).bind fun _ s₁ hs₁ _ hchecked => ?_
    refine .get_bind ?_
    refine .lift_bind (fun e he _ => Merge.not_breaks_of_resolve he) fun nodes hnodes => ?_
    have hmerged := hs₁.merged.resolve hnodes
    have hstays₂ : Stays s₁ { s₁ with nodes := nodes } := .of_cells rfl
    have hs₂ : Sound origin { s₁ with nodes := nodes } :=
      ⟨hmerged, hs₁.size, hs₁.waiting, hs₁.built⟩
    refine .set_bind hstays₂ ?_
    refine (entriesOf_ends hs₂ _ [] (Merge.pairsOf nodes i) fun _ => nofun).imp
      fun result s₃ hs₃ hstays₃ ⟨hshort, hassigned⟩ => ⟨hshort, fun pairs' hpairs' hmerge => ?_⟩
    -- The keys are checked before the merging and assigned after it. Without merge keys both go by
    -- the same pairs, and a key that was a scalar at the check is the same scalar now.
    have hplain := plain_of_mapping hclosed hpairs' hmerge
    obtain rfl : pairs = pairs' := by
      rw [hs.merged.content i hmerge, hpairs'] at hcontent
      exact (Content.mapping.inj hcontent).symm
    rw [pairsOf_of_merged hmerged hpairs' hmerge] at hassigned
    obtain ⟨keys, hkeys, heq⟩ := hassigned hplain
    have hchecked' := hchecked hplain
    have hkeys' := keysAre_back (hstays₂.trans hstays₃) hchecked'.built hkeys
    exact ⟨keys, hkeys, hchecked'.keysApart hkeys', heq⟩

end Mappings

/-! ## Sequences -/

section Sequences

variable {origin : Nodes} {s : DataState}

theorem buildAll_ends (hs : Sound origin s) (items : List Nat) :
    Ends origin s (buildAll items) fun _ _ => True := by
  induction items generalizing s with
  | nil => exact .pure hs trivial
  | cons i items ih => exact (build_ends hs i).bind fun _ _ hs₁ _ _ => ih hs₁

theorem sequenceItems_ends (hs : Sound origin s) (i : Nat) :
    Ends origin s (sequenceItems i) fun _ _ => ∃ js, (origin.node i).content = .sequence js := by
  rw [sequenceItems]
  refine .node_bind ?_
  split
  · rename_i items hcontent
    refine (buildAll_ends hs items).bind fun _ s₁ hs₁ _ _ => ?_
    exact .pure hs₁ ⟨items, hs.merged.origin_sequence hcontent⟩
  · exact wrongKind_ends _ _

theorem pairItems_ends (hs : Sound origin s) (context : String) (n : Node) (items : List Nat) :
    Ends origin s (pairItems context n items) fun _ _ => True := by
  induction items generalizing s with
  | nil => exact .pure hs trivial
  | cons item items ih =>
    rw [pairItems]
    refine .node_bind ?_
    split
    · refine (build_ends hs _).bind fun _ s₁ hs₁ _ _ => ?_
      refine (build_ends hs₁ _).bind fun _ s₂ hs₂ _ _ => ?_
      exact (ih hs₂).bind fun _ s₃ hs₃ _ _ => .pure hs₃ trivial
    · exact found_ends
    · exact found_ends

theorem pairsOf_ends (hs : Sound origin s) (context : String) (i : Nat) :
    Ends origin s (pairsOf context i) fun _ _ =>
      ∃ js, (origin.node i).content = .sequence js := by
  rw [pairsOf]
  refine .node_bind ?_
  split
  · rename_i items hcontent
    exact (pairItems_ends hs context _ items).imp fun _ _ _ _ _ =>
      ⟨items, hs.merged.origin_sequence hcontent⟩
  · exact found_ends

end Sequences

/-! ## Filling -/

section Filling

variable {origin : Nodes} {s : DataState}

/-- A collection may be set to one that the invariant admits. -/
theorem refill_ends (hs : Sound origin s) {s₀ : DataState} (hstays : Stays s₀ s) {i : Nat}
    {c : Cell} (hi : ∃ c₀, s₀.cell? i = some c₀ ∧ c₀.scalar? = none) (hcollection : c.scalar? = none)
    (hc : Built origin s i c) : Ends origin s (setCell i c) fun _ _ => True := by
  obtain ⟨c₀, hc₀, hnone⟩ := hi
  obtain ⟨c₁, hc₁, heq⟩ := hstays i c₀ hc₀
  refine (setCell_ends hs (fun c₂ hc₂ => ?_) hc).imp fun _ _ _ _ _ => trivial
  rw [hc₁] at hc₂
  cases hc₂
  rw [hcollection, heq, hnone]

theorem fill_ends (hclosed : origin.Closed) (hs : Sound origin s) {i : Nat}
    (hi : ∃ c, s.cell? i = some c ∧ c.scalar? = none) :
    Ends origin s (fill i) fun _ _ => True := by
  rw [fill]
  refine .node_bind ?_
  dsimp only
  split
  · rename_i hmap
    have htag := (hs.merged.tag_eq_iff (by decide) (by decide)).mp hmap
    refine (mappingEntries_ends hclosed hs (.inl htag)).bind
      fun entries s₁ hs₁ hstays₁ ⟨hshort, hdescribes⟩ => ?_
    exact refill_ends hs₁ hstays₁ hi rfl ⟨hshort, .inr hdescribes⟩
  · split
    · rename_i hset
      have htag := (hs.merged.tag_eq_iff (by decide) (by decide)).mp hset
      refine (mappingEntries_ends hclosed hs (.inr htag)).bind
        fun entries s₁ hs₁ hstays₁ ⟨hshort, _⟩ => ?_
      refine refill_ends hs₁ hstays₁ hi rfl fun hregular a ha => ?_
      obtain ⟨e, he, rfl⟩ := List.mem_map.mp ha
      exact hshort hregular e he
    · split
      · refine (sequenceItems_ends hs i).bind fun items s₁ hs₁ hstays₁ hsequence => ?_
        exact refill_ends hs₁ hstays₁ hi rfl (.inr hsequence)
      · split
        · refine (pairsOf_ends hs _ i).bind fun items s₁ hs₁ hstays₁ hsequence => ?_
          exact refill_ends hs₁ hstays₁ hi rfl (.inr hsequence)
        · refine (pairsOf_ends hs _ i).bind fun items s₁ hs₁ hstays₁ hsequence => ?_
          exact refill_ends hs₁ hstays₁ hi rfl (.inr hsequence)

theorem fillAll_ends (hclosed : origin.Closed) (hs : Sound origin s) (fuel : Nat) :
    Ends origin s (fillAll fuel) fun _ _ => True := by
  induction fuel generalizing s with
  | zero => exact .pure hs trivial
  | succ fuel ih =>
    rw [fillAll]
    refine .get_bind ?_
    split
    · exact .pure hs trivial
    · rename_i i rest hwaiting
      have hs₁ : Sound origin { s with waiting := rest } :=
        ⟨hs.merged, hs.size, fun j hj => hs.waiting j (hwaiting ▸ List.mem_cons_of_mem i hj),
          hs.built⟩
      refine .set_bind (.of_cells rfl) ?_
      have hi := hs.waiting i (hwaiting ▸ List.mem_cons_self)
      exact (fill_ends hclosed hs₁ hi).bind fun _ s₂ hs₂ _ _ => ih hs₂

theorem all_ends (hclosed : origin.Closed) (hs : Sound origin s) (root : Nat) :
    Ends origin s (all root) fun _ _ => True := by
  rw [all]
  refine (build_ends hs root).bind fun _ s₁ hs₁ _ _ => ?_
  exact .get_bind (fillAll_ends hclosed hs₁ _)

end Filling

end Builder

/-! ## The data of nodes -/

theorem cell?_start (nodes : Nodes) (i : Nat) :
    (⟨nodes, Array.replicate nodes.size none, []⟩ : DataState).cell? i = none := by
  rw [DataState.cell?, Array.getElem?_replicate]
  split <;> rfl

theorem sound_start (nodes : Nodes) :
    Sound nodes ⟨nodes, Array.replicate nodes.size none, []⟩ := by
  refine ⟨.refl nodes, Array.size_replicate, fun _ hi => absurd hi List.not_mem_nil,
    fun i c hc => ?_⟩
  rw [cell?_start] at hc
  cases hc

/-- The cells of the data of some nodes are as the invariant says. -/
theorem sound_of_ofNodes {nodes : Nodes} {root : Nat} {data : Data} (hclosed : nodes.Closed)
    (h : Data.ofNodes nodes root = .ok data) :
    data.root = root ∧ ∃ s, Sound nodes s ∧ s.cells = data.cells := by
  obtain ⟨⟨_, s⟩, hrun, h⟩ := bind_eq_ok_iff.mp h
  cases h
  have hsound := ((Builder.all_ends hclosed (sound_start nodes) root).ok hrun).1
  exact ⟨rfl, s, hsound, rfl⟩

/-- What stops the building of regular nodes is trouble with the text. -/
theorem not_breaks_of_ofNodes {nodes : Nodes} {root : Nat} {e : Trouble} (hclosed : nodes.Closed)
    (hregular : nodes.Regular) (h : Data.ofNodes nodes root = .error e) : ¬ e.Breaks := by
  rcases bind_eq_error_iff.mp h with h | ⟨_, _, h⟩
  · exact (Builder.all_ends hclosed (sound_start nodes) root).error h hregular
  · cases h

end CaseGrid.Yaml
