import CaseGrid.Proofs.Yaml.Merging
import Mathlib.Algebra.Order.BigOperators.Group.List
import Mathlib.Algebra.Order.Group.Nat
import Mathlib.Algebra.Ring.Nat
import Mathlib.Logic.Relation

/-
  What a mapping holds once its merge keys are resolved. Merging works in place: a merge key is
  taken out of a mapping before the mappings that it names are resolved, which may lead back to the
  mapping itself, and the pairs taken over are put in front at the end.

  Proved: a run with enough fuel leaves a mapping without merge keys that holds every pair of every
  mapping it takes over, over any number of merge keys (`gathers_of_resolve`), and whatever another
  mapping would take over it still does, unless it is a pair of this one. Every mapping keeps the
  pairs that were written in it, and only a mapping that was resolved, for itself or because a merge
  key names it, holds others (`Kept.resolve`).

  The fuel is compared with the number of merge keys, of which each round takes one out. The
  positions before the current one stay free of merge keys even where a mapping is resolved again in
  the middle of its own resolution: that is why the invariant speaks of the heads of all mappings.
-/

namespace CaseGrid.Yaml

open Relation (ReflTransGen)

/-! ## Mappings and what they take over -/

namespace Nodes

/-- The node is a mapping. -/
def IsMapping (nodes : Nodes) (i : Nat) : Prop :=
  ∃ pairs, (nodes.node i).content = .mapping pairs

/-- The pairs of a mapping that have no merge key. -/
def ownPairs (nodes : Nodes) (i : Nat) : List (Nat × Nat) :=
  (Merge.pairsOf nodes i).filter fun p => !Merge.isMerge nodes p

/-- The nodes that the value of a merge key stands for: a mapping itself, a list its items. -/
def targets (nodes : Nodes) (v : Nat) : List Nat :=
  match (nodes.node v).content with
  | .mapping _ => [v]
  | .sequence items => items
  | .scalar _ => []

/-- A merge key of one mapping names another node. -/
def Names (nodes : Nodes) (i v : Nat) : Prop :=
  ∃ p ∈ Merge.pairsOf nodes i, Merge.isMerge nodes p = true ∧ v ∈ nodes.targets p.2

/-- Some merge key names the node. -/
def Named (nodes : Nodes) (v : Nat) : Prop :=
  ∃ i, nodes.Names i v

/-- A pair is one that a mapping has or takes over, over any number of merge keys. -/
def Covers (nodes : Nodes) (i : Nat) (p : Nat × Nat) : Prop :=
  ∃ j, ReflTransGen nodes.Names i j ∧ p ∈ nodes.ownPairs j

section

variable {nodes : Nodes} {i j : Nat} {p : Nat × Nat}

theorem IsMapping.lt (h : nodes.IsMapping i) : i < nodes.size := by
  obtain ⟨pairs, hpairs⟩ := h
  by_contra hge
  rw [node_of_ge (Nat.le_of_not_lt hge)] at hpairs
  cases hpairs

theorem isMapping_of_mem (h : p ∈ Merge.pairsOf nodes i) : nodes.IsMapping i := by
  unfold Merge.pairsOf at h
  split at h
  · rename_i pairs hpairs
    exact ⟨pairs, hpairs⟩
  · cases h

theorem mem_ownPairs : p ∈ nodes.ownPairs i ↔
    p ∈ Merge.pairsOf nodes i ∧ Merge.isMerge nodes p = false := by
  rw [ownPairs, List.mem_filter, Bool.not_eq_true']

theorem covers_of_mem (h : p ∈ nodes.ownPairs i) : nodes.Covers i p :=
  ⟨i, .refl, h⟩

theorem Covers.of_names {v : Nat} (h : nodes.Covers v p) (hi : nodes.Names i v) :
    nodes.Covers i p := by
  obtain ⟨j, hpath, hj⟩ := h
  exact ⟨j, hpath.head hi, hj⟩

/-- A mapping without merge keys takes over nothing. -/
theorem Covers.mem (hnone : ∀ q ∈ Merge.pairsOf nodes i, Merge.isMerge nodes q = false)
    (h : nodes.Covers i p) : p ∈ Merge.pairsOf nodes i := by
  obtain ⟨j, hpath, hp⟩ := h
  rcases hpath.cases_head with rfl | ⟨v, ⟨q, hq, hmerge, -⟩, -⟩
  · exact (mem_ownPairs.mp hp).1
  · rw [hnone q hq] at hmerge
    cases hmerge

end

end Nodes

/-! ## What merging leaves as it is -/

/-- Nodes that differ in the pairs of mappings and in the tags of keys for default values only. -/
structure Akin (nodes nodes' : Nodes) : Prop where
  size : nodes'.size = nodes.size
  start : ∀ i, (nodes'.node i).start = (nodes.node i).start
  tag : ∀ i, (nodes'.node i).tag = (nodes.node i).tag ∨
    (nodes.node i).tag = Tag.default ∧ (nodes'.node i).tag = Tag.str
  mapping : ∀ i, nodes.IsMapping i → nodes'.IsMapping i
  other : ∀ i, ¬ nodes.IsMapping i → (nodes'.node i).content = (nodes.node i).content

namespace Akin

variable {nodes nodes' nodes'' : Nodes} {i : Nat}

theorem refl (nodes : Nodes) : Akin nodes nodes :=
  ⟨rfl, fun _ => rfl, fun _ => .inl rfl, fun _ h => h, fun _ _ => rfl⟩

theorem isMapping_iff (h : Akin nodes nodes') : nodes'.IsMapping i ↔ nodes.IsMapping i := by
  refine ⟨fun ⟨pairs, hpairs⟩ => ?_, h.mapping i⟩
  by_contra hnot
  rw [h.other i hnot] at hpairs
  exact hnot ⟨pairs, hpairs⟩

theorem trans (h : Akin nodes nodes') (h' : Akin nodes' nodes'') : Akin nodes nodes'' := by
  refine ⟨h'.size.trans h.size, fun i => (h'.start i).trans (h.start i), fun i => ?_,
    fun i hi => h'.mapping i (h.mapping i hi), fun i hi => ?_⟩
  · rcases h'.tag i with heq | ⟨hdefault, hstr⟩
    · rw [heq]
      exact h.tag i
    · rcases h.tag i with heq | ⟨-, hstr'⟩
      · exact .inr ⟨heq ▸ hdefault, hstr⟩
      · rw [hstr'] at hdefault
        exact absurd hdefault (by decide)
  · rw [h'.other i (mt h.isMapping_iff.mp hi), h.other i hi]

theorem tag_of_ne (h : Akin nodes nodes') (hi : (nodes.node i).tag ≠ Tag.default) :
    (nodes'.node i).tag = (nodes.node i).tag := by
  rcases h.tag i with heq | ⟨hdefault, -⟩
  · exact heq
  · exact absurd hdefault hi

theorem isMerge (h : Akin nodes nodes') : Merge.isMerge nodes' = Merge.isMerge nodes := by
  funext p
  unfold Merge.isMerge
  rcases h.tag p.1 with heq | ⟨hdefault, hstr⟩
  · rw [heq]
  · rw [hdefault, hstr]
    decide

theorem ownPairs (h : Akin nodes nodes') : nodes'.ownPairs i =
    (Merge.pairsOf nodes' i).filter fun p => !Merge.isMerge nodes p := by
  rw [Nodes.ownPairs, h.isMerge]

theorem targets (h : Akin nodes nodes') (v : Nat) : nodes'.targets v = nodes.targets v := by
  by_cases hv : nodes.IsMapping v
  · obtain ⟨pairs, hpairs⟩ := hv
    obtain ⟨pairs', hpairs'⟩ := h.mapping v ⟨pairs, hpairs⟩
    rw [Nodes.targets, Nodes.targets, hpairs, hpairs']
  · rw [Nodes.targets, Nodes.targets, h.other v hv]

/-- What a mapping takes over it still does where every mapping still has its pairs. -/
theorem covers (h : Akin nodes nodes')
    (hpairs : ∀ j, ∀ q ∈ Merge.pairsOf nodes j, q ∈ Merge.pairsOf nodes' j) {p : Nat × Nat}
    (hp : nodes.Covers i p) : nodes'.Covers i p := by
  obtain ⟨j, hpath, hj⟩ := hp
  have hnames (u v : Nat) (huv : nodes.Names u v) : nodes'.Names u v := by
    obtain ⟨q, hq, hmerge, hv⟩ := huv
    exact ⟨q, hpairs u q hq, by rw [h.isMerge, hmerge], by rw [h.targets]; exact hv⟩
  refine ⟨j, ReflTransGen.mono hnames _ _ hpath, ?_⟩
  obtain ⟨hmem, hkey⟩ := Nodes.mem_ownPairs.mp hj
  exact Nodes.mem_ownPairs.mpr ⟨hpairs j p hmem, by rw [h.isMerge, hkey]⟩

end Akin

namespace Merge

/-! ## Changes of single nodes -/

section

variable {nodes : Nodes} {i j : Nat} {pairs : List (Nat × Nat)}

theorem pairsOf_put (hi : nodes.IsMapping i) :
    pairsOf (nodes.put i (.mapping pairs)) j = if j = i then pairs else pairsOf nodes j := by
  have hlt := hi.lt
  unfold pairsOf
  rw [Nodes.node_put]
  by_cases hj : j = i
  · rw [if_pos ⟨hj, hj ▸ hlt⟩, if_pos hj]
  · rw [if_neg fun h => hj h.1, if_neg hj]

theorem akin_put (pairs : List (Nat × Nat)) (hi : nodes.IsMapping i) :
    Akin nodes (nodes.put i (.mapping pairs)) := by
  have hnode (j : Nat) : (nodes.put i (.mapping pairs)).node j =
      if j = i ∧ j < nodes.size then { nodes.node j with content := .mapping pairs }
      else nodes.node j := Nodes.node_put
  refine ⟨Nodes.size_put nodes i _, fun j => ?_, fun j => .inl ?_, fun j hj => ?_, fun j hj => ?_⟩
  · rw [hnode]
    split <;> rfl
  · rw [hnode]
    split <;> rfl
  · unfold Nodes.IsMapping
    rw [hnode]
    split
    · exact ⟨pairs, rfl⟩
    · exact hj
  · rw [hnode]
    split
    · rename_i hji
      exact absurd (hji.1 ▸ hi) hj
    · rfl

theorem content_retag {tag : String} :
    ((nodes.retag i tag).node j).content = (nodes.node j).content := by
  rw [Nodes.node_retag]
  split <;> rfl

theorem akin_retag (hi : (nodes.node i).tag = Tag.default) :
    Akin nodes (nodes.retag i Tag.str) := by
  refine ⟨Array.size_modify, fun j => ?_, fun j => ?_, fun j hj => ?_, fun j _ => content_retag⟩
  · rw [Nodes.node_retag]
    split <;> rfl
  · rw [Nodes.node_retag]
    split
    · rename_i hji
      exact .inr ⟨hji.1 ▸ hi, rfl⟩
    · exact .inl rfl
  · unfold Nodes.IsMapping
    rw [content_retag]
    exact hj

theorem retagDefaults_cons (p : Nat × Nat) : retagDefaults nodes (p :: pairs) =
    retagDefaults (if (nodes.node p.1).tag == Tag.default then nodes.retag p.1 Tag.str else nodes)
      pairs := rfl

/-- The first of the keys of pairs becomes a text if it is for a default value. -/
theorem akin_retagFirst (nodes : Nodes) (k : Nat) :
    Akin nodes (if (nodes.node k).tag == Tag.default then nodes.retag k Tag.str else nodes) := by
  split
  · rename_i hk
    exact akin_retag (by simpa using hk)
  · exact .refl nodes

theorem akin_retagDefaults (nodes : Nodes) (pairs : List (Nat × Nat)) :
    Akin nodes (retagDefaults nodes pairs) := by
  induction pairs generalizing nodes with
  | nil => exact .refl nodes
  | cons p pairs ih =>
    rw [retagDefaults_cons]
    exact (akin_retagFirst nodes p.1).trans (ih _)

theorem content_retagDefaults :
    ((retagDefaults nodes pairs).node j).content = (nodes.node j).content := by
  induction pairs generalizing nodes with
  | nil => rfl
  | cons p pairs ih =>
    rw [retagDefaults_cons, ih]
    split
    · exact content_retag
    · rfl

@[simp] theorem pairsOf_retagDefaults :
    pairsOf (retagDefaults nodes pairs) j = pairsOf nodes j := by
  unfold pairsOf
  rw [content_retagDefaults]

/-- No key of the pairs is one for a default value any longer. -/
theorem tag_retagDefaults {p : Nat × Nat} (hp : p ∈ pairs) :
    ((retagDefaults nodes pairs).node p.1).tag ≠ Tag.default := by
  induction pairs generalizing nodes with
  | nil => cases hp
  | cons q pairs ih =>
    rw [retagDefaults_cons]
    rcases List.mem_cons.mp hp with rfl | hp
    · have hfirst : ((if (nodes.node p.1).tag == Tag.default then nodes.retag p.1 Tag.str
          else nodes).node p.1).tag ≠ Tag.default := by
        split
        · rw [Nodes.node_retag]
          split
          · exact (by decide : Tag.str ≠ Tag.default)
          · rename_i hge
            rw [Nodes.node_of_ge (by simpa using hge)]
            exact (by decide : Tag.str ≠ Tag.default)
        · rename_i hne
          simpa using hne
      rw [(akin_retagDefaults _ pairs).tag_of_ne hfirst]
      exact hfirst
    · exact ih hp

end

/-! ## Settled pairs -/

/-- The key of a pair is neither a merge key nor one for a default value. -/
def Settled (nodes : Nodes) (p : Nat × Nat) : Prop :=
  (nodes.node p.1).tag ≠ Tag.merge ∧ (nodes.node p.1).tag ≠ Tag.default

/-- The first pairs of a mapping, so many of them, are settled. -/
def SettledTo (nodes : Nodes) (i n : Nat) : Prop :=
  ∀ p ∈ (pairsOf nodes i).take n, Settled nodes p

section

variable {nodes nodes' : Nodes} {i : Nat} {p : Nat × Nat}

theorem isMerge_eq_false_iff : isMerge nodes p = false ↔ (nodes.node p.1).tag ≠ Tag.merge := by
  rw [isMerge, beq_eq_false_iff_ne]

theorem Settled.isMerge (h : Settled nodes p) : Merge.isMerge nodes p = false :=
  isMerge_eq_false_iff.mpr h.1

theorem Settled.akin (h : Settled nodes p) (hakin : Akin nodes nodes') : Settled nodes' p := by
  have htag := hakin.tag_of_ne h.2
  exact ⟨htag ▸ h.1, htag ▸ h.2⟩

theorem settled_of_retagDefaults {run : List (Nat × Nat)} (hp : p ∈ run)
    (hmerge : Merge.isMerge nodes p = false) : Settled (retagDefaults nodes run) p := by
  refine ⟨?_, tag_retagDefaults hp⟩
  rw [← isMerge_eq_false_iff, (akin_retagDefaults nodes run).isMerge, hmerge]

end

/-! ## The number of merge keys -/

/-- The number of merge keys in some content. -/
def countIn (nodes : Nodes) : Content → Nat
  | .mapping pairs => (pairs.filter (isMerge nodes)).length
  | _ => 0

/-- The number of merge keys of one node. -/
def countAt (nodes : Nodes) (i : Nat) : Nat :=
  ((pairsOf nodes i).filter (isMerge nodes)).length

theorem countAt_eq (nodes : Nodes) (i : Nat) :
    countAt nodes i = countIn nodes (nodes.node i).content := by
  unfold countAt pairsOf
  cases (nodes.node i).content <;> rfl

theorem count_eq_sum (nodes : Nodes) :
    count nodes = ((List.range nodes.size).map (countAt nodes)).sum := by
  have hlist : nodes.toList.map (fun n => countIn nodes n.content) =
      (List.range nodes.size).map (countAt nodes) := by
    refine List.ext_getElem (by simp) fun i hi _ => ?_
    have hlt : i < nodes.size := by simpa using hi
    rw [List.getElem_map, List.getElem_map, List.getElem_range, Array.getElem_toList, countAt_eq,
      Nodes.node_of_lt hlt]
  rw [← hlist, List.sum_eq_foldl, List.foldl_map]
  unfold count
  congr 1
  funext total n
  cases n.content <;> rfl

section

variable {nodes nodes' : Nodes}

theorem count_le_of_forall (hsize : nodes'.size = nodes.size)
    (h : ∀ i, countAt nodes' i ≤ countAt nodes i) : count nodes' ≤ count nodes := by
  rw [count_eq_sum, count_eq_sum, hsize]
  exact List.sum_le_sum fun i _ => h i

theorem count_lt_of_lt (hsize : nodes'.size = nodes.size)
    (h : ∀ i, countAt nodes' i ≤ countAt nodes i) {i : Nat} (hi : i < nodes.size)
    (hlt : countAt nodes' i < countAt nodes i) : count nodes' < count nodes := by
  rw [count_eq_sum, count_eq_sum, hsize]
  exact List.sum_lt_sum _ _ (fun j _ => h j) ⟨i, List.mem_range.mpr hi, hlt⟩

end

/-! ## One round of resolving -/

/-- The ways in which a round of resolving a mapping ends: there was no merge key left, with nothing
or something taken over, or there was one, whose mappings were resolved before going on. -/
inductive Round (fuel i position : Nat) (taken : List (Nat × Nat)) (nodes : Nodes) : Nodes → Prop
  | last {run : List (Nat × Nat)}
    (hpairs : pairsOf nodes i = (pairsOf nodes i).take position ++ run)
    (hrun : ∀ p ∈ run, isMerge nodes p = false) (htaken : taken = []) :
    Round fuel i position taken nodes (retagDefaults nodes run)
  | put {run : List (Nat × Nat)} (hpairs : pairsOf nodes i = (pairsOf nodes i).take position ++ run)
    (hrun : ∀ p ∈ run, isMerge nodes p = false) (htaken : taken ≠ []) :
    Round fuel i position taken nodes
      ((retagDefaults nodes run).put i (.mapping (taken ++ pairsOf nodes i)))
  | next {first run after : List (Nat × Nat)} {k v : Nat} {between nodes' : Nodes}
    {groups : List (List (Nat × Nat))} (hpairs : pairsOf nodes i = first ++ run ++ (k, v) :: after)
    (hfirst : first.length = position) (hrun : ∀ p ∈ run, isMerge nodes p = false)
    (hkey : isMerge nodes (k, v) = true)
    (hgather : gather (fun item => resolveFrom fuel item 0 []) i (nodes.targets v)
      ((retagDefaults nodes run).put i (.mapping (first ++ run ++ after))) [] =
        .ok (between, groups))
    (hrest : resolveFrom fuel i (position + run.length) (taken ++ groups.flatten) between =
      .ok nodes') :
    Round fuel i position taken nodes nodes'

/-- A mapping that a merge key names by itself is resolved as the only one of a list. -/
theorem gather_singleton {resolve : Nat → Nodes → Except Trouble Nodes} {i v : Nat}
    {nodes between : Nodes} (hv : nodes.IsMapping v) (h : resolve v nodes = .ok between) :
    gather resolve i [v] nodes [] = .ok (between, [pairsOf between v]) := by
  obtain ⟨pairs, hpairs⟩ := hv
  rw [gather, hpairs]
  exact bind_eq_ok_iff.mpr ⟨between, h, rfl⟩

theorem round_of_resolveFrom {fuel i position : Nat} {taken : List (Nat × Nat)}
    {nodes nodes' : Nodes} (h : resolveFrom (fuel + 1) i position taken nodes = .ok nodes') :
    Round fuel i position taken nodes nodes' := by
  rw [resolveFrom] at h
  dsimp only at h
  generalize hrest : (pairsOf nodes i).drop position = rest at h
  generalize hrunof : rest.takeWhile (fun p => !isMerge nodes p) = run at h
  have hrun (p : Nat × Nat) (hp : p ∈ run) : isMerge nodes p = false := by
    have hall := List.all_eq_true.mp List.all_takeWhile p (hrunof ▸ hp)
    simpa using hall
  have hpairs : pairsOf nodes i =
      (pairsOf nodes i).take position ++ (run ++ rest.drop run.length) := by
    rw [← hrunof, drop_length_takeWhile, List.takeWhile_append_dropWhile, ← hrest,
      List.take_append_drop]
  split at h
  · rename_i hnone
    rw [hnone, List.append_nil] at hpairs
    cases h
    split
    · rename_i hempty
      exact .last hpairs hrun (List.isEmpty_iff.mp hempty)
    · rename_i hne
      exact .put hpairs hrun (mt List.isEmpty_iff.mpr hne)
  · rename_i k v after hafter
    have hkey : isMerge nodes (k, v) = true := by
      rw [← hrunof] at hafter
      simpa using (mem_of_drop_takeWhile hafter).2
    have hle : position ≤ (pairsOf nodes i).length := by
      by_contra hlt
      rw [← hrest, List.drop_drop, List.drop_eq_nil_of_le (by omega)] at hafter
      cases hafter
    have hfirst : ((pairsOf nodes i).take position).length = position := List.length_take_of_le hle
    rw [hafter, ← List.append_assoc] at hpairs
    generalize (pairsOf nodes i).take position = first at hpairs hfirst
    have hi : nodes.IsMapping i := Nodes.isMapping_of_mem (p := (k, v)) (hpairs ▸ by simp)
    have htake : (pairsOf nodes i).take (position + run.length) = first ++ run := by
      rw [hpairs, ← hfirst, ← List.length_append, List.take_left]
    rw [htake] at h
    -- The content of the value is that of the nodes now, in which the keys of the run are texts and
    -- the merge key is taken out; what the value stands for is the same.
    have hakin : Akin nodes ((retagDefaults nodes run).put i (.mapping (first ++ run ++ after))) :=
      (akin_retagDefaults nodes run).trans
        (akin_put _ ((akin_retagDefaults nodes run).isMapping_iff.mpr hi))
    have htargets := hakin.targets v
    generalize hremoved :
      (retagDefaults nodes run).put i (.mapping (first ++ run ++ after)) = removed at h htargets
    split at h
    · rename_i pairs hv
      obtain ⟨between, hbetween, hlater⟩ := bind_eq_ok_iff.mp h
      have hgather : gather (fun item => resolveFrom fuel item 0 []) i (nodes.targets v)
          ((retagDefaults nodes run).put i (.mapping (first ++ run ++ after))) [] =
            .ok (between, [pairsOf between v]) := by
        rw [hremoved, ← htargets, Nodes.targets, hv]
        exact gather_singleton ⟨pairs, hv⟩ hbetween
      refine .next hpairs hfirst hrun hkey hgather ?_
      rwa [List.flatten_cons, List.flatten_nil, List.append_nil]
    · rename_i items hv
      obtain ⟨⟨between, groups⟩, hbetween, hlater⟩ := bind_eq_ok_iff.mp h
      refine .next hpairs hfirst hrun hkey ?_ hlater
      rw [hremoved, ← htargets, Nodes.targets, hv]
      exact hbetween
    · cases h

/-! ## Gathering pairs -/

/--
What resolving some mappings leads to, where `ps` are the pairs gathered from them: no mapping loses
its settled head, the pairs gathered are settled and are all that these mappings take over, and what
another mapping takes over it still does, unless it was gathered.
-/
structure Gathers (nodes nodes' : Nodes) (targets : List Nat) (ps : List (Nat × Nat)) : Prop where
  akin : Akin nodes nodes'
  count : count nodes' ≤ count nodes
  heads : ∀ j n, SettledTo nodes j n → SettledTo nodes' j n
  settled : ∀ p ∈ ps, Settled nodes' p
  covers : ∀ j p, nodes.Covers j p → nodes'.Covers j p ∨ p ∈ ps
  reached : ∀ v ∈ targets, ∀ p, nodes.Covers v p → p ∈ ps

section

variable {nodes nodes' nodes'' : Nodes} {i : Nat} {targets targets' : List Nat}
  {ps ps' : List (Nat × Nat)}

/-- Mappings resolved after others, with what was gathered from those. -/
theorem Gathers.trans (h : Gathers nodes nodes' targets ps)
    (h' : Gathers nodes' nodes'' targets' ps') (hsub : ps ⊆ ps') :
    Gathers nodes nodes'' (targets ++ targets') ps' where
  akin := h.akin.trans h'.akin
  count := h'.count.trans h.count
  heads j n hj := h'.heads j n (h.heads j n hj)
  settled := h'.settled
  covers j p hp := by
    rcases h.covers j p hp with hp | hp
    · exact h'.covers j p hp
    · exact .inr (hsub hp)
  reached v hv p hp := by
    rcases List.mem_append.mp hv with hv | hv
    · exact hsub (h.reached v hv p hp)
    · rcases h.covers v p hp with hp | hp
      · exact h'.reached v hv p hp
      · exact hsub hp

theorem Gathers.of_subset (h : Gathers nodes nodes' targets ps) (hsub : targets' ⊆ targets) :
    Gathers nodes nodes' targets' ps :=
  { h with reached := fun v hv => h.reached v (hsub hv) }

/-- A mapping whose pairs are settled has gathered what it takes over. -/
theorem Gathers.of_settled (hakin : Akin nodes nodes')
    (hcount : Merge.count nodes' ≤ Merge.count nodes)
    (hheads : ∀ j n, SettledTo nodes j n → SettledTo nodes' j n)
    (hsettled : ∀ p ∈ pairsOf nodes' i, Settled nodes' p)
    (hcovers : ∀ j p, nodes.Covers j p → nodes'.Covers j p ∨ p ∈ pairsOf nodes' i) :
    Gathers nodes nodes' [i] (pairsOf nodes' i) where
  akin := hakin
  count := hcount
  heads := hheads
  settled := hsettled
  covers := hcovers
  reached v hv p hp := by
    obtain rfl := List.mem_singleton.mp hv
    rcases hcovers v p hp with hp | hp
    · exact hp.mem fun q hq => (hsettled q hq).isMerge
    · exact hp

/-- Resolving the mappings of a list gathers from all of them. -/
theorem gathers_of_gather {resolve : Nat → Nodes → Except Trouble Nodes} {bound : Nat}
    (hresolve : ∀ item nodes nodes', count nodes < bound → resolve item nodes = .ok nodes' →
      Gathers nodes nodes' [item] (pairsOf nodes' item))
    {items : List Nat} {groups groups' : List (List (Nat × Nat))} (hcount : count nodes < bound)
    (hgroups : ∀ p ∈ groups.flatten, Settled nodes p)
    (h : gather resolve i items nodes groups = .ok (nodes', groups')) :
    Gathers nodes nodes' items groups'.flatten ∧ groups.flatten ⊆ groups'.flatten := by
  induction items generalizing nodes groups with
  | nil =>
    cases h
    refine ⟨⟨.refl _, le_rfl, fun _ _ h => h, hgroups, fun _ _ h => .inl h, nofun⟩, fun _ h => h⟩
  | cons item items ih =>
    rw [gather] at h
    split at h
    · obtain ⟨between, hbetween, h⟩ := bind_eq_ok_iff.mp h
      have hitem := hresolve item nodes between hcount hbetween
      have hsettled (p : Nat × Nat) (hp : p ∈ (pairsOf between item :: groups).flatten) :
          Settled between p := by
        rw [List.flatten_cons] at hp
        rcases List.mem_append.mp hp with hp | hp
        · exact hitem.settled p hp
        · exact (hgroups p hp).akin hitem.akin
      obtain ⟨hitems, hsub⟩ := ih (hitem.count.trans_lt hcount) hsettled h
      rw [List.flatten_cons, List.append_subset] at hsub
      exact ⟨hitem.trans hitems hsub.1, hsub.2⟩
    · cases h

end

/-! ## Steps of a round -/

section

variable {nodes : Nodes} {i : Nat} {run : List (Nat × Nat)}

/-- The keys of a run become texts, and all else stays. -/
theorem settledTo_retagDefaults {j n : Nat} (h : SettledTo nodes j n) :
    SettledTo (retagDefaults nodes run) j n := by
  intro p hp
  rw [pairsOf_retagDefaults] at hp
  exact (h p hp).akin (akin_retagDefaults nodes run)

theorem count_retagDefaults (run : List (Nat × Nat)) :
    count (retagDefaults nodes run) = count nodes := by
  have hakin := akin_retagDefaults nodes run
  rw [count_eq_sum, count_eq_sum, hakin.size]
  congr 2
  funext j
  rw [countAt, countAt, hakin.isMerge, pairsOf_retagDefaults]

/-- All pairs of a mapping are settled once the run to its end is one of texts. -/
theorem settled_of_last {position : Nat}
    (hpairs : pairsOf nodes i = (pairsOf nodes i).take position ++ run)
    (hrun : ∀ p ∈ run, isMerge nodes p = false) (hheads : SettledTo nodes i position) :
    ∀ p ∈ pairsOf nodes i, Settled (retagDefaults nodes run) p := by
  intro p hp
  rw [hpairs] at hp
  rcases List.mem_append.mp hp with hp | hp
  · exact (hheads p hp).akin (akin_retagDefaults nodes run)
  · exact settled_of_retagDefaults hp (hrun p hp)

/-- Pairs are put in front of those of a mapping, all of them settled. -/
theorem gathers_put {taken : List (Nat × Nat)} (hi : nodes.IsMapping i)
    (htaken : ∀ p ∈ taken, Settled nodes p) (hpairs : ∀ p ∈ pairsOf nodes i, Settled nodes p) :
    Gathers nodes (nodes.put i (.mapping (taken ++ pairsOf nodes i))) [i]
      (pairsOf (nodes.put i (.mapping (taken ++ pairsOf nodes i))) i) := by
  have hakin := akin_put (taken ++ pairsOf nodes i) hi
  have hat (j : Nat) : pairsOf (nodes.put i (.mapping (taken ++ pairsOf nodes i))) j =
      if j = i then taken ++ pairsOf nodes i else pairsOf nodes j := pairsOf_put hi
  have hall (p : Nat × Nat) (hp : p ∈ taken ++ pairsOf nodes i) : Settled nodes p :=
    (List.mem_append.mp hp).elim (htaken p) (hpairs p)
  refine .of_settled hakin (count_le_of_forall hakin.size fun j => ?_) (fun j n hj p hp => ?_)
    (fun p hp => ?_) fun j p hp => .inl (hakin.covers (fun u q hq => ?_) hp)
  · rw [countAt, hat, hakin.isMerge]
    split
    · rename_i hji
      have hnone : (taken ++ pairsOf nodes i).filter (Merge.isMerge nodes) = [] :=
        List.filter_eq_nil_iff.mpr fun p hp => by simp [(hall p hp).isMerge]
      rw [hnone]
      exact Nat.zero_le _
    · exact le_rfl
  · rw [hat] at hp
    split at hp
    · exact (hall p (List.mem_of_mem_take hp)).akin hakin
    · exact (hj p hp).akin hakin
  · rw [hat, if_pos rfl] at hp
    exact (hall p hp).akin hakin
  · rw [hat]
    split
    · rename_i hui
      exact List.mem_append_right taken (hui ▸ hq)
    · exact hq

/-- A merge key is taken out of a mapping. -/
theorem countAt_remove {before after : List (Nat × Nat)} {q : Nat × Nat} (hi : nodes.IsMapping i)
    (hpairs : pairsOf nodes i = before ++ q :: after) (hq : isMerge nodes q = true) (j : Nat) :
    countAt (nodes.put i (.mapping (before ++ after))) j =
      if j = i then countAt nodes i - 1 else countAt nodes j := by
  rw [countAt, pairsOf_put hi, (akin_put _ hi).isMerge]
  split
  · rw [countAt, hpairs, List.filter_append, List.filter_append, List.filter_cons_of_pos hq,
      List.length_append, List.length_append, List.length_cons]
    omega
  · rfl

theorem count_remove {before after : List (Nat × Nat)} {q : Nat × Nat} (hi : nodes.IsMapping i)
    (hpairs : pairsOf nodes i = before ++ q :: after) (hq : isMerge nodes q = true) :
    count (nodes.put i (.mapping (before ++ after))) < count nodes := by
  have hat := countAt_remove hi hpairs hq
  have hpos : 0 < countAt nodes i := by
    rw [countAt, hpairs]
    exact List.length_pos_of_mem (List.mem_filter.mpr ⟨by simp, hq⟩)
  refine count_lt_of_lt (akin_put _ hi).size (fun j => ?_) hi.lt ?_
  · rw [hat]
    split
    · rename_i hji
      exact hji ▸ Nat.sub_le _ 1
    · exact le_rfl
  · rw [hat, if_pos rfl]
    omega

/-- A settled head ends before a merge key. -/
theorem settledTo_remove {before after : List (Nat × Nat)} {q : Nat × Nat} (hi : nodes.IsMapping i)
    (hpairs : pairsOf nodes i = before ++ q :: after) (hq : isMerge nodes q = true) {j n : Nat}
    (h : SettledTo nodes j n) : SettledTo (nodes.put i (.mapping (before ++ after))) j n := by
  have hakin := akin_put (before ++ after) hi
  intro p hp
  rw [pairsOf_put hi] at hp
  refine Settled.akin (h p ?_) hakin
  split at hp
  · rename_i hji
    subst hji
    have hshort : n ≤ before.length := by
      by_contra hlong
      have hmem : q ∈ (pairsOf nodes j).take n := by
        obtain ⟨m, hm⟩ : ∃ m, n - before.length = m + 1 := ⟨n - before.length - 1, by omega⟩
        rw [hpairs, List.take_append, hm, List.take_succ_cons]
        exact List.mem_append_right _ List.mem_cons_self
      have hsettled := (h q hmem).isMerge
      rw [hq] at hsettled
      cases hsettled
    rw [List.take_append_of_le_length hshort] at hp
    rw [hpairs, List.take_append_of_le_length hshort]
    exact hp
  · exact hp

/-- What a mapping takes over, over the merge key that is taken out or not. -/
theorem covers_remove {before after : List (Nat × Nat)} {q : Nat × Nat} (hi : nodes.IsMapping i)
    (hpairs : pairsOf nodes i = before ++ q :: after) (hq : isMerge nodes q = true) {j : Nat}
    {p : Nat × Nat} (h : nodes.Covers j p) :
    (nodes.put i (.mapping (before ++ after))).Covers j p ∨
      ∃ t ∈ nodes.targets q.2, (nodes.put i (.mapping (before ++ after))).Covers t p := by
  have hakin := akin_put (before ++ after) hi
  have hkeep (u : Nat) (x : Nat × Nat) (hx : x ∈ pairsOf nodes u) :
      x ∈ pairsOf (nodes.put i (.mapping (before ++ after))) u ∨ x = q := by
    rw [pairsOf_put hi]
    split
    · rename_i hui
      rw [hui, hpairs] at hx
      simp only [List.mem_append, List.mem_cons] at hx ⊢
      tauto
    · exact .inl hx
  obtain ⟨last, hpath, hlast⟩ := h
  induction hpath using ReflTransGen.head_induction_on with
  | refl =>
    obtain ⟨hmem, hkey⟩ := Nodes.mem_ownPairs.mp hlast
    rcases hkeep last p hmem with hmem | rfl
    · exact .inl (Nodes.covers_of_mem (Nodes.mem_ownPairs.mpr ⟨hmem, by rw [hakin.isMerge, hkey]⟩))
    · rw [hq] at hkey
      cases hkey
  | @head u w hnames _ ih =>
    obtain ⟨x, hx, hmerge, hw⟩ := hnames
    rcases ih with hcovers | htarget
    · rcases hkeep u x hx with hx | rfl
      · obtain ⟨end', hpath', hend⟩ := hcovers
        have hstep : (nodes.put i (.mapping (before ++ after))).Names u w :=
          ⟨x, hx, by rw [hakin.isMerge, hmerge], by rw [hakin.targets]; exact hw⟩
        exact .inl ⟨end', hpath'.head hstep, hend⟩
      · exact .inr ⟨w, hw, hcovers⟩
    · exact .inr htarget

theorem gathers_retagDefaults (h : ∀ p ∈ pairsOf nodes i, Settled (retagDefaults nodes run) p) :
    Gathers nodes (retagDefaults nodes run) [i] (pairsOf (retagDefaults nodes run) i) := by
  have hakin := akin_retagDefaults nodes run
  refine .of_settled hakin (count_retagDefaults run).le (fun _ _ => settledTo_retagDefaults)
    (fun p hp => h p (pairsOf_retagDefaults ▸ hp))
    fun j _ hp => .inl (hakin.covers (fun u q hq => ?_) hp)
  rwa [pairsOf_retagDefaults]

end

/-! ## Resolving a mapping -/

/-- A mapping from a position on, what is before it being settled, with the pairs taken over so
far. -/
structure Resolvable (nodes : Nodes) (i position : Nat) (taken : List (Nat × Nat)) : Prop where
  mapping : taken ≠ [] → nodes.IsMapping i
  head : SettledTo nodes i position
  taken : ∀ p ∈ taken, Settled nodes p

theorem resolvable_start (nodes : Nodes) (i : Nat) : Resolvable nodes i 0 [] :=
  ⟨fun h => absurd rfl h, fun _ hp => absurd hp List.not_mem_nil, nofun⟩

/-- What a round with a merge key leaves to the next ones. -/
theorem Resolvable.next {nodes between : Nodes} {i position : Nat} {taken : List (Nat × Nat)}
    (h : Resolvable nodes i position taken) {first run after : List (Nat × Nat)} {q : Nat × Nat}
    {targets : List Nat} {ps : List (Nat × Nat)}
    (hpairs : pairsOf nodes i = first ++ run ++ q :: after)
    (hfirst : first.length = position) (hrun : ∀ p ∈ run, isMerge nodes p = false)
    (hgathers : Gathers ((retagDefaults nodes run).put i (.mapping (first ++ run ++ after))) between
      targets ps) :
    Resolvable between i (position + run.length) (taken ++ ps) := by
  have hi : (retagDefaults nodes run).IsMapping i :=
    (akin_retagDefaults nodes run).mapping i (Nodes.isMapping_of_mem (p := q) (hpairs ▸ by simp))
  have hakin := akin_put (first ++ run ++ after) hi
  refine ⟨fun _ => ?_, hgathers.heads i _ fun p hp => ?_, fun p hp => ?_⟩
  · exact hgathers.akin.mapping i (hakin.mapping i hi)
  · rw [pairsOf_put hi, if_pos rfl, ← hfirst, ← List.length_append, List.take_left] at hp
    refine Settled.akin ?_ hakin
    rcases List.mem_append.mp hp with hp | hp
    · refine (h.head p ?_).akin (akin_retagDefaults nodes run)
      rw [hpairs, ← hfirst, List.append_assoc, List.take_left]
      exact hp
    · exact settled_of_retagDefaults hp (hrun p hp)
  · rcases List.mem_append.mp hp with hp | hp
    · have hakin' := (akin_retagDefaults nodes run).trans hakin
      exact (h.taken p hp).akin (hakin'.trans hgathers.akin)
    · exact hgathers.settled p hp

/-- A mapping that is resolved with enough fuel holds what it takes over, and what was taken
before. -/
theorem gathers_of_resolveFrom {fuel i position : Nat} {taken : List (Nat × Nat)}
    {nodes nodes' : Nodes} (hcount : count nodes < fuel)
    (hresolvable : Resolvable nodes i position taken)
    (h : resolveFrom fuel i position taken nodes = .ok nodes') :
    Gathers nodes nodes' [i] (pairsOf nodes' i) ∧ taken ⊆ pairsOf nodes' i := by
  induction fuel generalizing i position taken nodes nodes' with
  | zero => omega
  | succ fuel ih =>
    cases round_of_resolveFrom h with
    | last hpairs hrun htaken =>
      subst htaken
      exact ⟨gathers_retagDefaults (settled_of_last hpairs hrun hresolvable.head),
        List.nil_subset _⟩
    | @put run hpairs hrun htaken =>
      have hakin := akin_retagDefaults nodes run
      have hi := hakin.mapping i (hresolvable.mapping htaken)
      have hsettled := settled_of_last hpairs hrun hresolvable.head
      have hput := gathers_put hi (fun p hp => (hresolvable.taken p hp).akin hakin) fun p hp =>
        hsettled p (pairsOf_retagDefaults ▸ hp)
      rw [pairsOf_retagDefaults] at hput
      have hat : pairsOf ((retagDefaults nodes run).put i (.mapping (taken ++ pairsOf nodes i))) i =
          taken ++ pairsOf nodes i := by
        rw [pairsOf_put hi, if_pos rfl]
      have hsub : pairsOf (retagDefaults nodes run) i ⊆
          pairsOf ((retagDefaults nodes run).put i (.mapping (taken ++ pairsOf nodes i))) i := by
        rw [hat, pairsOf_retagDefaults]
        exact List.subset_append_right _ _
      refine ⟨((gathers_retagDefaults hsettled).trans hput hsub).of_subset ?_, ?_⟩
      · exact List.subset_append_left _ _
      · rw [hat]
        exact List.subset_append_left _ _
    | @next first run after k v between _ groups hpairs hfirst hrun hkey hgather hrest =>
      have hakin := akin_retagDefaults nodes run
      have hi : (retagDefaults nodes run).IsMapping i :=
        hakin.mapping i (Nodes.isMapping_of_mem (p := (k, v)) (hpairs ▸ by simp))
      have hpairs' : pairsOf (retagDefaults nodes run) i = (first ++ run) ++ (k, v) :: after := by
        rw [pairsOf_retagDefaults, hpairs]
      have hkey' : isMerge (retagDefaults nodes run) (k, v) = true := by rw [hakin.isMerge, hkey]
      have hless := count_remove hi hpairs' hkey'
      rw [count_retagDefaults] at hless
      -- The mappings that the key names, then the rest of this one; each has one merge key less.
      obtain ⟨htargets, -⟩ := gathers_of_gather
        (fun item n n' hn hrun => (ih hn (resolvable_start n item) hrun).1)
        (hless.trans_le (Nat.le_of_lt_succ hcount)) (fun _ hp => absurd hp List.not_mem_nil) hgather
      obtain ⟨hlater, hsub⟩ := ih
        (htargets.count.trans_lt (hless.trans_le (Nat.le_of_lt_succ hcount)))
        (hresolvable.next hpairs hfirst hrun htargets) hrest
      rw [List.append_subset] at hsub
      refine ⟨.of_settled ?_ ?_ (fun j n hj => ?_) hlater.settled fun j p hp => ?_, hsub.1⟩
      · exact hakin.trans ((akin_put _ hi).trans (htargets.akin.trans hlater.akin))
      · exact hlater.count.trans (htargets.count.trans hless.le)
      · exact hlater.heads j n (htargets.heads j n
          (settledTo_remove hi hpairs' hkey' (settledTo_retagDefaults hj)))
      · have hretagged : (retagDefaults nodes run).Covers j p :=
          hakin.covers (fun u q hq => by rwa [pairsOf_retagDefaults]) hp
        have hgathered (hp : p ∈ groups.flatten) : nodes'.Covers j p ∨ p ∈ pairsOf nodes' i :=
          .inr (hsub.2 hp)
        rcases covers_remove hi hpairs' hkey' hretagged with hkept | ⟨t, ht, hkept⟩
        · rcases htargets.covers j p hkept with hkept | hp
          · exact hlater.covers j p hkept
          · exact hgathered hp
        · rw [hakin.targets] at ht
          exact hgathered (htargets.reached t ht p hkept)

/-- A mapping that is resolved holds all that it takes over, over any number of merge keys. -/
theorem gathers_of_resolve {nodes nodes' : Nodes} {i : Nat} (h : resolve nodes i = .ok nodes') :
    Gathers nodes nodes' [i] (pairsOf nodes' i) :=
  (gathers_of_resolveFrom (Nat.lt_succ_self _) (resolvable_start nodes i) h).1

end Merge

end CaseGrid.Yaml
