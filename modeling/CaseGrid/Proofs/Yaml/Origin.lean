import CaseGrid.Proofs.Yaml.TakingOver

/-
  Where the pairs come from that a mapping holds in the course of merging. What was written in it
  stays, in the same order, without its merge keys. What is added is written in a mapping that it
  takes over, and is neither a merge key nor a key for a default value. Only a mapping that was
  resolved holds anything else than what was written in it, and that is one that was asked for or
  one that a merge key names.

  Proved: `Kept.resolve`. The induction is on the fuel, round by round.
-/

namespace CaseGrid.Yaml

open Merge (Settled pairsOf)

/-- What some nodes keep of those that were written, where mappings were resolved that were asked
for and the mappings that these take over. -/
structure Kept (origin : Nodes) (asked : Nat → Prop) (nodes : Nodes) : Prop where
  akin : Akin origin nodes
  own : ∀ i, (origin.ownPairs i).Sublist (nodes.ownPairs i)
  held : ∀ i, ∀ p ∈ pairsOf nodes i, p ∈ pairsOf origin i ∨ Settled nodes p ∧ origin.Covers i p
  changed : ∀ i, pairsOf nodes i ≠ pairsOf origin i → asked i ∨ origin.Named i

namespace Kept

variable {origin nodes nodes' : Nodes} {asked : Nat → Prop} {i : Nat} {p : Nat × Nat}

theorem refl (origin : Nodes) (asked : Nat → Prop) : Kept origin asked origin :=
  ⟨.refl origin, fun _ => .refl _, fun _ _ hp => .inl hp, fun _ h => absurd rfl h⟩

theorem mono (h : Kept origin asked nodes) {asked' : Nat → Prop}
    (hasked : ∀ i, asked i → asked' i) : Kept origin asked' nodes :=
  { h with changed := fun i hi => (h.changed i hi).imp_left (hasked i) }

/-- A pair without a merge key is one that the mapping has or takes over. -/
theorem covers (h : Kept origin asked nodes) (hp : p ∈ pairsOf nodes i)
    (hkey : Merge.isMerge nodes p = false) : origin.Covers i p := by
  rcases h.held i p hp with hmem | ⟨-, hcovers⟩
  · rw [h.akin.isMerge] at hkey
    exact Nodes.covers_of_mem (Nodes.mem_ownPairs.mpr ⟨hmem, hkey⟩)
  · exact hcovers

/-- A merge key stays in the mapping in which it was written. -/
theorem mem_of_isMerge (h : Kept origin asked nodes) (hp : p ∈ pairsOf nodes i)
    (hkey : Merge.isMerge nodes p = true) : p ∈ pairsOf origin i := by
  rcases h.held i p hp with hmem | ⟨hsettled, -⟩
  · exact hmem
  · rw [hsettled.isMerge] at hkey
    cases hkey

/-- A key for a default value stays in the mapping in which it was written. -/
theorem mem_of_default (h : Kept origin asked nodes) (hp : p ∈ pairsOf nodes i)
    (hkey : (nodes.node p.1).tag = Tag.default) : p ∈ pairsOf origin i := by
  rcases h.held i p hp with hmem | ⟨hsettled, -⟩
  · exact hmem
  · exact absurd hkey hsettled.2

/-- Every pair is written in some mapping. -/
theorem written (h : Kept origin asked nodes) (hp : p ∈ pairsOf nodes i) :
    ∃ j, p ∈ pairsOf origin j := by
  rcases h.held i p hp with hmem | ⟨-, j, -, hj⟩
  · exact ⟨i, hmem⟩
  · exact ⟨j, (Nodes.mem_ownPairs.mp hj).1⟩

/-- The nodes that a merge key found in the course of merging names are named from the beginning. -/
theorem names (h : Kept origin asked nodes) (hp : p ∈ pairsOf nodes i)
    (hkey : Merge.isMerge nodes p = true) {t : Nat} (ht : t ∈ nodes.targets p.2) :
    origin.Names i t := by
  have hmem := h.mem_of_isMerge hp hkey
  rw [h.akin.isMerge] at hkey
  rw [h.akin.targets] at ht
  exact ⟨p, hmem, hkey, ht⟩

theorem retagDefaults (h : Kept origin asked nodes) (run : List (Nat × Nat)) :
    Kept origin asked (Merge.retagDefaults nodes run) := by
  have hakin := Merge.akin_retagDefaults nodes run
  refine ⟨h.akin.trans hakin, fun i => ?_, fun i p hp => ?_, fun i hi => ?_⟩
  · rw [hakin.ownPairs, Merge.pairsOf_retagDefaults]
    exact h.own i
  · rw [Merge.pairsOf_retagDefaults] at hp
    exact (h.held i p hp).imp_right fun hnew => ⟨hnew.1.akin hakin, hnew.2⟩
  · rw [Merge.pairsOf_retagDefaults] at hi
    exact h.changed i hi

/-- A mapping that is resolved is given other pairs: none of its own is lost, and those that are new
to it are settled and taken over. -/
theorem put (h : Kept origin asked nodes) (hi : nodes.IsMapping i)
    (hasked : asked i ∨ origin.Named i) {pairs : List (Nat × Nat)}
    (hown : (nodes.ownPairs i).Sublist (pairs.filter fun p => !Merge.isMerge nodes p))
    (hnew : ∀ p ∈ pairs, p ∈ pairsOf nodes i ∨ Settled nodes p ∧ origin.Covers i p) :
    Kept origin asked (nodes.put i (.mapping pairs)) := by
  have hakin := Merge.akin_put pairs hi
  have hat (j : Nat) : pairsOf (nodes.put i (.mapping pairs)) j =
      if j = i then pairs else pairsOf nodes j := Merge.pairsOf_put hi
  have hheld (j : Nat) (p : Nat × Nat) (hp : p ∈ pairsOf nodes j) : p ∈ pairsOf origin j ∨
      Settled (nodes.put i (.mapping pairs)) p ∧ origin.Covers j p :=
    (h.held j p hp).imp_right fun hnew => ⟨hnew.1.akin hakin, hnew.2⟩
  refine ⟨h.akin.trans hakin, fun j => ?_, fun j p hp => ?_, fun j hj => ?_⟩
  · rw [hakin.ownPairs, hat]
    split
    · rename_i hji
      exact hji ▸ (h.own i).trans hown
    · exact h.own j
  · rw [hat] at hp
    split at hp
    · rename_i hji
      subst hji
      rcases hnew p hp with hmem | ⟨hsettled, hcovers⟩
      · exact hheld j p hmem
      · exact .inr ⟨hsettled.akin hakin, hcovers⟩
    · exact hheld j p hp
  · rw [hat] at hj
    split at hj
    · rename_i hji
      exact hji ▸ hasked
    · exact h.changed j hj

/-- A merge key is taken out of a mapping that is resolved. -/
theorem remove (h : Kept origin asked nodes) (hasked : asked i ∨ origin.Named i)
    {before after : List (Nat × Nat)} {q : Nat × Nat}
    (hpairs : pairsOf nodes i = before ++ q :: after) (hq : Merge.isMerge nodes q = true) :
    Kept origin asked (nodes.put i (.mapping (before ++ after))) := by
  refine h.put (Nodes.isMapping_of_mem (p := q) (hpairs ▸ by simp)) hasked ?_ fun p hp => .inl ?_
  · rw [Nodes.ownPairs, hpairs, List.filter_append, List.filter_append,
      List.filter_cons_of_neg (by simp [hq])]
  · rw [hpairs]
    simp only [List.mem_append, List.mem_cons] at hp ⊢
    tauto

/-- Resolving the mappings that a merge key of a mapping names. -/
theorem gather {resolve : Nat → Nodes → Except Trouble Nodes} {bound : Nat}
    (hresolve : ∀ item nodes nodes', origin.Named item → Merge.count nodes < bound →
      Kept origin asked nodes → resolve item nodes = .ok nodes' → Kept origin asked nodes' ∧
        Merge.Gathers nodes nodes' [item] (pairsOf nodes' item))
    {items : List Nat} (hitems : ∀ item ∈ items, origin.Names i item)
    (hcount : Merge.count nodes < bound) (h : Kept origin asked nodes)
    {groups groups' : List (List (Nat × Nat))} (hgroups : ∀ p ∈ groups.flatten, origin.Covers i p)
    (hrun : Merge.gather resolve i items nodes groups = .ok (nodes', groups')) :
    Kept origin asked nodes' ∧ ∀ p ∈ groups'.flatten, origin.Covers i p := by
  induction items generalizing nodes groups with
  | nil =>
    cases hrun
    exact ⟨h, hgroups⟩
  | cons item items ih =>
    rw [Merge.gather] at hrun
    split at hrun
    · obtain ⟨between, hbetween, hrun⟩ := bind_eq_ok_iff.mp hrun
      have hnames := hitems item List.mem_cons_self
      obtain ⟨hkept, hgathers⟩ := hresolve item nodes between ⟨i, hnames⟩ hcount h hbetween
      refine ih (fun x hx => hitems x (List.mem_cons_of_mem item hx))
        (hgathers.count.trans_lt hcount) hkept (fun p hp => ?_) hrun
      rw [List.flatten_cons] at hp
      rcases List.mem_append.mp hp with hp | hp
      · exact (hkept.covers hp (hgathers.settled p hp).isMerge).of_names hnames
      · exact hgroups p hp
    · cases hrun

theorem resolveFrom {fuel position : Nat} {taken : List (Nat × Nat)} (h : Kept origin asked nodes)
    (hcount : Merge.count nodes < fuel) (hresolvable : Merge.Resolvable nodes i position taken)
    (htaken : ∀ p ∈ taken, origin.Covers i p) (hasked : asked i ∨ origin.Named i)
    (hrun : Merge.resolveFrom fuel i position taken nodes = .ok nodes') :
    Kept origin asked nodes' := by
  induction fuel generalizing i position taken nodes nodes' with
  | zero => omega
  | succ fuel ih =>
    cases Merge.round_of_resolveFrom hrun with
    | last hpairs hrun htaken => exact h.retagDefaults _
    | @put run hpairs hrun hne =>
      have hakin := Merge.akin_retagDefaults nodes run
      refine (h.retagDefaults run).put (hakin.mapping i (hresolvable.mapping hne)) hasked ?_
        fun p hp => ?_
      · rw [hakin.ownPairs, hakin.isMerge, Merge.pairsOf_retagDefaults]
        exact (List.sublist_append_right taken _).filter _
      · rw [Merge.pairsOf_retagDefaults]
        exact (List.mem_append.mp hp).elim
          (fun hp => .inr ⟨(hresolvable.taken p hp).akin hakin, htaken p hp⟩) .inl
    | @next first run after k v between _ groups hpairs hfirst hrun hkey hgather hrest =>
      have hakin := Merge.akin_retagDefaults nodes run
      have hmem : (k, v) ∈ pairsOf nodes i := hpairs ▸ by simp
      have hpairs' :
          pairsOf (Merge.retagDefaults nodes run) i = (first ++ run) ++ (k, v) :: after := by
        rw [Merge.pairsOf_retagDefaults, hpairs]
      have hkey' : Merge.isMerge (Merge.retagDefaults nodes run) (k, v) = true := by
        rw [hakin.isMerge, hkey]
      have hless := Merge.count_remove (hakin.mapping i (Nodes.isMapping_of_mem hmem)) hpairs' hkey'
      rw [Merge.count_retagDefaults] at hless
      have hfuel := hless.trans_le (Nat.le_of_lt_succ hcount)
      have hgathers {item : Nat} {n n' : Nodes} (hn : Merge.count n < fuel)
          (hrun : Merge.resolveFrom fuel item 0 [] n = .ok n') :
          Merge.Gathers n n' [item] (pairsOf n' item) :=
        (Merge.gathers_of_resolveFrom hn (Merge.resolvable_start n item) hrun).1
      obtain ⟨hbetween, hgroups⟩ := gather
        (fun item n n' hitem hn hkept hrun =>
          ⟨ih hkept hn (Merge.resolvable_start n item) nofun (.inr hitem) hrun, hgathers hn hrun⟩)
        (fun t ht => h.names hmem hkey ht) hfuel ((h.retagDefaults run).remove hasked hpairs' hkey')
        (fun _ hp => absurd hp List.not_mem_nil) hgather
      obtain ⟨htargets, -⟩ := Merge.gathers_of_gather (fun item n n' hn hrun => hgathers hn hrun)
        hfuel (fun _ hp => absurd hp List.not_mem_nil) hgather
      exact ih hbetween (htargets.count.trans_lt hfuel)
        (hresolvable.next hpairs hfirst hrun htargets)
        (fun p hp => (List.mem_append.mp hp).elim (htaken p) (hgroups p)) hasked hrest

/-- Resolving a mapping that was asked for. -/
theorem resolve (h : Kept origin asked nodes) (hasked : asked i)
    (hrun : Merge.resolve nodes i = .ok nodes') : Kept origin asked nodes' :=
  h.resolveFrom (Nat.lt_succ_self _) (Merge.resolvable_start nodes i) nofun (.inl hasked) hrun

end Kept

end CaseGrid.Yaml
