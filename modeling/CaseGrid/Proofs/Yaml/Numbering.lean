import CaseGrid.Proofs.Except
import CaseGrid.Yaml.Node

/-
  The numbers in the nodes of a document are numbers of nodes. A node may be referred to before it
  is filled, and by itself, so what the reader keeps is that every number it holds, in a node or
  for an anchor, is below the number of nodes there are, which only grows.

  Proved: `closed_of_ofEvents`. The induction is on the fuel of the three readers at once; inside a
  collection there is at least one node, which is what the stand-in number zero needs.
-/

namespace CaseGrid.Yaml

/-- The numbers that a content holds. -/
def Content.parts : Content → List Nat
  | .scalar _ => []
  | .sequence items => items
  | .mapping pairs => pairs.flatMap fun p => [p.1, p.2]

/-- Every number in a node is that of a node. -/
def Nodes.Closed (nodes : Nodes) : Prop :=
  ∀ i, ∀ j ∈ (nodes.node i).content.parts, j < nodes.size

namespace Nodes

theorem node_of_lt {nodes : Nodes} {i : Nat} (h : i < nodes.size) : nodes.node i = nodes[i] := by
  rw [node, Array.getElem?_eq_getElem h]
  rfl

theorem node_of_ge {nodes : Nodes} {i : Nat} (h : nodes.size ≤ i) :
    nodes.node i = ⟨Tag.str, ⟨0, 0, 0⟩, .scalar []⟩ := by
  rw [node, Array.getElem?_eq_none h]
  rfl

theorem node_modify {nodes : Nodes} {f : Node → Node} {i j : Nat} :
    Nodes.node (nodes.modify i f) j =
      if j = i ∧ j < nodes.size then f (nodes.node j) else nodes.node j := by
  by_cases hj : j < nodes.size
  · rw [node_of_lt (by rwa [Array.size_modify]), node_of_lt hj]
    simp only [Array.getElem_modify]
    by_cases hi : i = j
    · simp [hi, hj]
    · simp [hi, Ne.symm hi]
  · rw [node_of_ge (by rw [Array.size_modify]; omega), node_of_ge (by omega), if_neg (by omega)]

theorem size_put (nodes : Nodes) (i : Nat) (content : Content) :
    (nodes.put i content).size = nodes.size :=
  Array.size_modify

theorem node_put {nodes : Nodes} {i j : Nat} {content : Content} :
    (nodes.put i content).node j =
      if j = i ∧ j < nodes.size then { nodes.node j with content := content } else nodes.node j :=
  node_modify

theorem node_retag {nodes : Nodes} {i j : Nat} {tag : String} :
    (nodes.retag i tag).node j =
      if j = i ∧ j < nodes.size then { nodes.node j with tag := tag } else nodes.node j :=
  node_modify

theorem node_push {nodes : Nodes} {n : Node} {i : Nat} :
    Nodes.node (nodes.push n) i = if i = nodes.size then n else nodes.node i := by
  rw [node, node, Array.getElem?_push]
  split
  · rfl
  · rfl

end Nodes

/-- The numbers that a state of the reader holds are below the number of its nodes. -/
structure NodeState.Numbered (s : NodeState) : Prop where
  closed : s.nodes.Closed
  anchors : ∀ a ∈ s.anchors, a.2 < s.nodes.size

namespace NodeReader

variable {s s' : NodeState}

/-! ## Single steps -/

theorem peek_run {e : Event} (h : peek.run s = .ok (e, s')) : s' = s := by
  obtain ⟨_, _, hget, h⟩ := run_bind_eq_ok_iff.mp h
  cases hget
  obtain ⟨⟨first, rest⟩, _, hlift, h⟩ := run_bind_eq_ok_iff.mp h
  exact (run_pure_eq_ok_iff.mp h).2.trans (run_lift_eq_ok_iff.mp hlift).2

theorem take_run {e : Event} (h : take.run s = .ok (e, s')) :
    s'.nodes = s.nodes ∧ s'.anchors = s.anchors := by
  obtain ⟨_, _, hget, h⟩ := run_bind_eq_ok_iff.mp h
  cases hget
  obtain ⟨⟨first, rest⟩, _, hlift, h⟩ := run_bind_eq_ok_iff.mp h
  cases (run_lift_eq_ok_iff.mp hlift).2
  obtain ⟨_, _, hset, h⟩ := run_bind_eq_ok_iff.mp h
  cases hset
  cases (run_pure_eq_ok_iff.mp h).2
  exact ⟨rfl, rfl⟩

theorem anchored?_run {name : String} {found : Option Nat}
    (h : (anchored? name).run s = .ok (found, s')) :
    s' = s ∧ ∀ i ∈ found, ∃ a ∈ s.anchors, a.2 = i := by
  obtain ⟨_, _, hget, h⟩ := run_bind_eq_ok_iff.mp h
  cases hget
  obtain ⟨rfl, rfl⟩ := run_pure_eq_ok_iff.mp h
  refine ⟨rfl, fun i hi => ?_⟩
  obtain ⟨a, ha, rfl⟩ := Option.map_eq_some_iff.mp hi
  exact ⟨a, List.mem_of_find?_eq_some ha, rfl⟩

theorem checkAnchor_run {e : Event} {u : Unit} (h : (checkAnchor e).run s = .ok (u, s')) :
    s' = s := by
  unfold checkAnchor at h
  split at h
  · exact (run_pure_eq_ok_iff.mp h).2
  · obtain ⟨found, s₁, hfound, h⟩ := run_bind_eq_ok_iff.mp h
    obtain ⟨hs₁, -⟩ := anchored?_run hfound
    split at h
    · exact (run_pure_eq_ok_iff.mp h).2.trans hs₁
    · obtain ⟨_, _, hget, h⟩ := run_bind_eq_ok_iff.mp h
      cases hget
      cases h

theorem checkDepth_run {depth : Nat} {u : Unit} (h : (checkDepth depth).run s = .ok (u, s')) :
    s' = s := by
  unfold checkDepth at h
  split at h
  · cases h
  · exact (run_pure_eq_ok_iff.mp h).2

theorem numbered_of_take {e : Event} (hs : s.Numbered) (h : take.run s = .ok (e, s')) :
    s'.Numbered ∧ s'.nodes.size = s.nodes.size := by
  obtain ⟨hnodes, hanchors⟩ := take_run h
  refine ⟨⟨by rw [hnodes]; exact hs.closed, ?_⟩, by rw [hnodes]⟩
  rw [hnodes, hanchors]
  exact hs.anchors

/-- A node with nothing in it gets the next number. -/
theorem numbered_of_add {anchor : Option String} {n : Node} {i : Nat} (hs : s.Numbered)
    (hn : n.content.parts = []) (h : (add anchor n).run s = .ok (i, s')) :
    s'.Numbered ∧ s'.nodes.size = s.nodes.size + 1 ∧ i = s.nodes.size := by
  obtain ⟨_, _, hget, h⟩ := run_bind_eq_ok_iff.mp h
  cases hget
  obtain ⟨_, _, hset, h⟩ := run_bind_eq_ok_iff.mp h
  cases hset
  obtain ⟨rfl, rfl⟩ := run_pure_eq_ok_iff.mp h
  have hsize : (s.nodes.push n).size = s.nodes.size + 1 := Array.size_push _
  refine ⟨⟨fun i j hj => ?_, fun a ha => ?_⟩, hsize, rfl⟩
  · dsimp only at hj ⊢
    rw [Nodes.node_push] at hj
    rw [hsize]
    split at hj
    · rw [hn] at hj
      cases hj
    · exact Nat.lt_succ_of_lt (hs.closed i j hj)
  · dsimp only at ha ⊢
    rw [hsize]
    split at ha
    · rcases List.mem_cons.mp ha with rfl | ha
      · exact Nat.lt_succ_self _
      · exact Nat.lt_succ_of_lt (hs.anchors a ha)
    · exact Nat.lt_succ_of_lt (hs.anchors a ha)

theorem numbered_of_fill {i : Nat} {content : Content} {u : Unit} (hs : s.Numbered)
    (hparts : ∀ j ∈ content.parts, j < s.nodes.size)
    (h : (fill i content).run s = .ok (u, s')) : s'.Numbered ∧ s'.nodes.size = s.nodes.size := by
  cases h
  have hsize := Nodes.size_put s.nodes i content
  refine ⟨⟨fun k j hj => ?_, fun a ha => ?_⟩, hsize⟩
  · dsimp only at hj ⊢
    rw [hsize]
    rw [Nodes.node_put] at hj
    split at hj
    · exact hparts j hj
    · exact hs.closed k j hj
  · dsimp only
    rw [hsize]
    exact hs.anchors a ha

/-! ## The three readers -/

/-- What a reader of nodes keeps, and the numbers that it answers with. -/
structure Reads (s s' : NodeState) (numbers : List Nat) : Prop where
  numbered : s'.Numbered
  size_le : s.nodes.size ≤ s'.nodes.size
  lt : 0 < s'.nodes.size → ∀ i ∈ numbers, i < s'.nodes.size

theorem reads_of_take {e : Event} (hs : s.Numbered) (h : take.run s = .ok (e, s')) :
    Reads s s' [] := by
  obtain ⟨hnumbered, hsize⟩ := numbered_of_take hs h
  exact ⟨hnumbered, by omega, by simp⟩

theorem Reads.of_le {s₀ : NodeState} {is : List Nat} (h : Reads s s' is)
    (hle : s₀.nodes.size ≤ s.nodes.size) : Reads s₀ s' is :=
  ⟨h.numbered, Nat.le_trans hle h.size_le, h.lt⟩

theorem Reads.append {s₁ : NodeState} {is js : List Nat} (hpos : 0 < s.nodes.size)
    (h : Reads s s₁ is) (h' : Reads s₁ s' js) : Reads s s' (is ++ js) := by
  have hle := h.size_le
  have hle' := h'.size_le
  refine ⟨h'.numbered, by omega, fun hpos' j hj => ?_⟩
  rcases List.mem_append.mp hj with hj | hj
  · have hlt := h.lt (by omega) j hj
    omega
  · exact h'.lt hpos' j hj

/-- Reading one node keeps the numbers in order. -/
def NodeReads (fuel : Nat) : Prop :=
  ∀ depth s s' i, s.Numbered → (node depth fuel).run s = .ok (i, s') → Reads s s' [i]

/-- So does reading the items of a sequence, which is one of the nodes. -/
def ItemsRead (fuel : Nat) : Prop :=
  ∀ depth s s' is, s.Numbered → 0 < s.nodes.size →
    (items depth fuel).run s = .ok (is, s') → Reads s s' is

/-- So does reading the pairs of a mapping. -/
def PairsRead (fuel : Nat) : Prop :=
  ∀ depth s s' ps, s.Numbered → 0 < s.nodes.size →
    (pairs depth fuel).run s = .ok (ps, s') → Reads s s' (Content.mapping ps).parts

theorem itemsRead_succ {fuel : Nat} (hnode : NodeReads fuel) (hitems : ItemsRead fuel) :
    ItemsRead (fuel + 1) := by
  intro depth s s' is hs hpos h
  rw [items] at h
  obtain ⟨e, s₁, hpeek, h⟩ := run_bind_eq_ok_iff.mp h
  cases peek_run hpeek
  split at h
  · obtain ⟨_, s₂, htake, h⟩ := run_bind_eq_ok_iff.mp h
    obtain ⟨rfl, rfl⟩ := run_pure_eq_ok_iff.mp h
    exact reads_of_take hs htake
  · obtain ⟨i, s₂, hi, h⟩ := run_bind_eq_ok_iff.mp h
    obtain ⟨rest, s₃, hrest, h⟩ := run_bind_eq_ok_iff.mp h
    obtain ⟨rfl, rfl⟩ := run_pure_eq_ok_iff.mp h
    have hfirst := hnode depth s s₂ i hs hi
    have hle := hfirst.size_le
    exact hfirst.append hpos (hitems depth s₂ s' rest hfirst.numbered (by omega) hrest)

theorem pairsRead_succ {fuel : Nat} (hnode : NodeReads fuel) (hpairs : PairsRead fuel) :
    PairsRead (fuel + 1) := by
  intro depth s s' ps hs hpos h
  rw [pairs] at h
  obtain ⟨e, s₁, hpeek, h⟩ := run_bind_eq_ok_iff.mp h
  cases peek_run hpeek
  split at h
  · obtain ⟨_, s₂, htake, h⟩ := run_bind_eq_ok_iff.mp h
    obtain ⟨rfl, rfl⟩ := run_pure_eq_ok_iff.mp h
    exact reads_of_take hs htake
  · obtain ⟨k, s₂, hk, h⟩ := run_bind_eq_ok_iff.mp h
    obtain ⟨v, s₃, hv, h⟩ := run_bind_eq_ok_iff.mp h
    obtain ⟨rest, s₄, hrest, h⟩ := run_bind_eq_ok_iff.mp h
    obtain ⟨rfl, rfl⟩ := run_pure_eq_ok_iff.mp h
    have hkey := hnode depth s s₂ k hs hk
    have hle := hkey.size_le
    have hvalue := hnode depth s₂ s₃ v hkey.numbered hv
    have hle' := hvalue.size_le
    have hlater := hpairs depth s₃ s' rest hvalue.numbered (by omega) hrest
    have hall : Reads s s' ([k] ++ ([v] ++ (Content.mapping rest).parts)) :=
      hkey.append hpos (hvalue.append (by omega) hlater)
    exact hall

/-- A collection is added empty and filled with what was read after it. -/
theorem reads_collection {anchor : Option String} {n : Node} {content : Content}
    {s₁ s₂ : NodeState} {i : Nat} {u : Unit} (hs : s.Numbered) (hn : n.content.parts = [])
    (hadd : (add anchor n).run s = .ok (i, s₁)) (hread : Reads s₁ s₂ content.parts)
    (hfill : (fill i content).run s₂ = .ok (u, s')) : Reads s s' [i] := by
  obtain ⟨-, hsize, rfl⟩ := numbered_of_add hs hn hadd
  have hle := hread.size_le
  obtain ⟨hnumbered, hfilled⟩ := numbered_of_fill hread.numbered
    (fun j hj => hread.lt (by omega) j hj) hfill
  refine ⟨hnumbered, by omega, fun _ i hi => ?_⟩
  obtain rfl := List.mem_singleton.mp hi
  omega

theorem nodeReads_succ {fuel : Nat} (hitems : ItemsRead fuel) (hpairs : PairsRead fuel) :
    NodeReads (fuel + 1) := by
  intro depth s s' i hs h
  rw [node] at h
  obtain ⟨e, s₁, hpeek, h⟩ := run_bind_eq_ok_iff.mp h
  cases peek_run hpeek
  split at h
  -- An alias adds no node: its number is that of an anchor, which is in bounds already.
  · obtain ⟨_, s₂, htake, h⟩ := run_bind_eq_ok_iff.mp h
    obtain ⟨found, s₃, hfound, h⟩ := run_bind_eq_ok_iff.mp h
    obtain ⟨hs₃, hanchor⟩ := anchored?_run hfound
    have hread := reads_of_take hs htake
    split at h
    · rename_i j
      obtain ⟨hj, hs'⟩ := run_pure_eq_ok_iff.mp h
      obtain ⟨a, ha, haj⟩ := hanchor j rfl
      rw [hs', hs₃]
      refine ⟨hread.numbered, hread.size_le, fun _ k hk => ?_⟩
      obtain rfl := List.mem_singleton.mp hk
      rw [hj, ← haj]
      exact hread.numbered.anchors a ha
    · cases h
  · obtain ⟨_, s₂, hanchor, h⟩ := run_bind_eq_ok_iff.mp h
    cases checkAnchor_run hanchor
    obtain ⟨_, s₃, htake, h⟩ := run_bind_eq_ok_iff.mp h
    obtain ⟨hnumbered, hsize⟩ := numbered_of_take hs htake
    have hle : s.nodes.size ≤ s₃.nodes.size := by omega
    split at h
    · obtain ⟨hadded, hgrown, rfl⟩ := numbered_of_add hnumbered rfl h
      refine ⟨hadded, by omega, fun _ k hk => ?_⟩
      obtain rfl := List.mem_singleton.mp hk
      omega
    -- A sequence, and after it a mapping: what is inside is read between adding and filling.
    · obtain ⟨_, s₄, hdepth, h⟩ := run_bind_eq_ok_iff.mp h
      cases checkDepth_run hdepth
      obtain ⟨j, s₅, hadd, h⟩ := run_bind_eq_ok_iff.mp h
      obtain ⟨is, s₆, his, h⟩ := run_bind_eq_ok_iff.mp h
      obtain ⟨_, s₇, hfill, h⟩ := run_bind_eq_ok_iff.mp h
      obtain ⟨rfl, rfl⟩ := run_pure_eq_ok_iff.mp h
      obtain ⟨hadded, hgrown, -⟩ := numbered_of_add hnumbered rfl hadd
      have hread := hitems (depth + 1) s₅ s₆ is hadded (by omega) his
      exact (reads_collection hnumbered rfl hadd hread hfill).of_le hle
    · obtain ⟨_, s₄, hdepth, h⟩ := run_bind_eq_ok_iff.mp h
      cases checkDepth_run hdepth
      obtain ⟨j, s₅, hadd, h⟩ := run_bind_eq_ok_iff.mp h
      obtain ⟨ps, s₆, hps, h⟩ := run_bind_eq_ok_iff.mp h
      obtain ⟨_, s₇, hfill, h⟩ := run_bind_eq_ok_iff.mp h
      obtain ⟨rfl, rfl⟩ := run_pure_eq_ok_iff.mp h
      obtain ⟨hadded, hgrown, -⟩ := numbered_of_add hnumbered rfl hadd
      have hread := hpairs (depth + 1) s₅ s₆ ps hadded (by omega) hps
      exact (reads_collection hnumbered rfl hadd hread hfill).of_le hle
    · obtain ⟨rfl, rfl⟩ := run_pure_eq_ok_iff.mp h
      exact ⟨hnumbered, hle, by simp⟩

/-- The three readers call each other with less fuel. -/
theorem reads_of_fuel (fuel : Nat) : NodeReads fuel ∧ ItemsRead fuel ∧ PairsRead fuel := by
  induction fuel with
  | zero =>
    refine ⟨fun depth s s' i hs h => ?_, fun depth s s' is hs _ h => ?_,
      fun depth s s' ps hs _ h => ?_⟩
    · obtain ⟨rfl, rfl⟩ := run_pure_eq_ok_iff.mp h
      exact ⟨hs, Nat.le_refl _, by simp⟩
    · obtain ⟨rfl, rfl⟩ := run_pure_eq_ok_iff.mp h
      exact ⟨hs, Nat.le_refl _, by simp⟩
    · obtain ⟨rfl, rfl⟩ := run_pure_eq_ok_iff.mp h
      exact ⟨hs, Nat.le_refl _, by simp [Content.parts]⟩
  | succ fuel ih =>
    obtain ⟨hnode, hitems, hpairs⟩ := ih
    exact ⟨nodeReads_succ hitems hpairs, itemsRead_succ hnode hitems,
      pairsRead_succ hnode hpairs⟩

/-- No document has a number in it that is not that of a node. -/
theorem numbered_of_single {events : Feed Event} {root : Option Nat}
    (h : single.run { events := events } = .ok (root, s')) : s'.Numbered := by
  have hstart : ({ events := events } : NodeState).Numbered :=
    ⟨fun i j hj => (List.not_mem_nil hj).elim, fun a ha => (List.not_mem_nil ha).elim⟩
  obtain ⟨_, s₁, htake, h⟩ := run_bind_eq_ok_iff.mp h
  obtain ⟨h₁, -⟩ := numbered_of_take hstart htake
  obtain ⟨e, s₂, hpeek, h⟩ := run_bind_eq_ok_iff.mp h
  cases peek_run hpeek
  split at h
  · rw [← (run_pure_eq_ok_iff.mp h).2] at h₁
    exact h₁
  · obtain ⟨_, s₃, htake', h⟩ := run_bind_eq_ok_iff.mp h
    obtain ⟨h₃, -⟩ := numbered_of_take h₁ htake'
    obtain ⟨_, _, hget, h⟩ := run_bind_eq_ok_iff.mp h
    cases hget
    obtain ⟨i, s₄, hnode, h⟩ := run_bind_eq_ok_iff.mp h
    have h₄ := ((reads_of_fuel _).1 _ _ _ _ h₃ hnode).numbered
    obtain ⟨_, s₅, htake'', h⟩ := run_bind_eq_ok_iff.mp h
    obtain ⟨h₅, -⟩ := numbered_of_take h₄ htake''
    obtain ⟨e', s₆, hpeek', h⟩ := run_bind_eq_ok_iff.mp h
    cases peek_run hpeek'
    dsimp only at h
    split at h
    · obtain ⟨_, _, hget, h⟩ := run_bind_eq_ok_iff.mp h
      cases hget
      cases h
    · rw [← (run_pure_eq_ok_iff.mp h).2] at h₅
      exact h₅

end NodeReader

/-- No document has a number in it that is not that of a node. -/
theorem closed_of_ofEvents {events : Feed Event} {nodes : Nodes} {root : Option Nat}
    (h : Node.ofEvents events = .ok (nodes, root)) : nodes.Closed := by
  obtain ⟨⟨root', s'⟩, hsingle, h⟩ := bind_eq_ok_iff.mp h
  cases h
  exact (NodeReader.numbered_of_single hsingle).closed

end CaseGrid.Yaml
