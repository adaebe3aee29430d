import CaseGrid.Proofs.Tree.Listing
import CaseGrid.Proofs.Tree.Product
import Mathlib.Algebra.BigOperators.Fin

/-
  The tree of whole expansions. Below the root stand the titles, below a title its first variable,
  and from there on the candidates of a variable and the next variable take turns, down to the
  candidates of the last variable, which hold the cases.

  Proved: the outline of a tree is its nodes in preorder, each indented by its depth
  (`outline_eq`), what stands where in the tree of a product (`position_of_at`), how many nodes it
  has (`length_nodes_product`), and from these what the tree of some scenarios is
  (`ofCases_nests`). All of it rests on the order of the product; the tree of other cases can give
  them back in another order.
-/

namespace CaseGrid

open CaseGrid.Validation CaseGrid.Expansion

namespace Tree

variable {α : Type}

/-! ## The nodes in preorder -/

mutual

/-- The nodes of a tree, a node before those below it, each with the keys to it. -/
def nodes : Tree α → List (Path × Tree α)
  | .node n d a es => ([], .node n d a es) :: nodesBelow es
termination_by structural t => t

/-- The nodes of the trees under some keys, in order. -/
def nodesBelow : List (Value × Tree α) → List (Path × Tree α)
  | [] => []
  | (key, t) :: es => under key (nodes t) ++ nodesBelow es
termination_by structural es => es

end

theorem nodes_eq (t : Tree α) : nodes t = ([], t) :: nodesBelow t.entries := by
  cases t
  rfl

theorem nodesBelow_eq (es : Entries (Tree α)) :
    nodesBelow es = es.flatMap fun e => under e.1 (nodes e.2) := by
  induction es with
  | nil => rfl
  | cons e es ih => rw [nodesBelow, ih, List.flatMap_cons]

theorem ne_nil_of_mem_nodesBelow {es : Entries (Tree α)} {x : Path × Tree α}
    (hx : x ∈ nodesBelow es) : x.1 ≠ [] := by
  rw [nodesBelow_eq] at hx
  obtain ⟨e, -, hx⟩ := List.mem_flatMap.mp hx
  obtain ⟨y, -, rfl⟩ := List.mem_map.mp hx
  exact List.cons_ne_nil _ _

mutual

/-- The nodes of a tree are those at the end of some keys. -/
theorem mem_nodes_iff : (t : Tree α) → ∀ {keys : Path} {u : Tree α},
    (keys, u) ∈ nodes t ↔ At keys t u
  | .node n d a es, keys, u => by
    rw [nodes, List.mem_cons, mem_nodesBelow_iff es]
    constructor
    · intro h
      rcases h with heq | ⟨key, rest, c, rfl, hc, hat⟩
      · cases heq
        exact .here _
      · exact .down hc hat
    · intro h
      cases h with
      | here => exact .inl rfl
      | down hc hat => exact .inr ⟨_, _, _, rfl, hc, hat⟩
termination_by structural t => t

theorem mem_nodesBelow_iff : (es : List (Value × Tree α)) → ∀ {keys : Path} {u : Tree α},
    (keys, u) ∈ nodesBelow es ↔ ∃ key rest c, keys = key :: rest ∧ (key, c) ∈ es ∧ At rest c u
  | [], keys, u => by simp [nodesBelow]
  | (key, t) :: es, keys, u => by
    rw [nodesBelow, List.mem_append, mem_nodesBelow_iff es]
    constructor
    · intro h
      rcases h with hx | ⟨other, rest, c, rfl, hc, hat⟩
      · obtain ⟨⟨rest, v⟩, hv, heq⟩ := List.mem_map.mp hx
        cases heq
        exact ⟨key, rest, t, rfl, .head _, (mem_nodes_iff t).mp hv⟩
      · exact ⟨other, rest, c, rfl, .tail _ hc, hat⟩
    · intro h
      obtain ⟨other, rest, c, rfl, hc, hat⟩ := h
      rcases List.mem_cons.mp hc with heq | hc
      · cases heq
        exact .inl (List.mem_map.mpr ⟨(rest, u), (mem_nodes_iff t).mpr hat, rfl⟩)
      · exact .inr ⟨other, rest, c, rfl, hc, hat⟩
termination_by structural es => es

end

/-! ## Outlines -/

/-- A line after some copies of an indentation. -/
def indented (indent : String) (copies : Nat) (line : Value) : Value :=
  if copies = 0 then line else indentLine (String.join (List.replicate copies indent)) line

theorem indentLine_indentLine (outer inner : String) (line : Value) :
    indentLine outer (indentLine inner line) = indentLine (outer ++ inner) line := by
  by_cases hbroken : ∃ b, line = .scalar (.broken b)
  · obtain ⟨b, rfl⟩ := hbroken
    simp [indentLine, Text.Broken.after, Text.Points.ofString, Text.Points.ofChars]
  · have htext (start : String) : indentLine start line = .text (start ++ line.label) := by
      unfold indentLine
      split
      · exact absurd ⟨_, rfl⟩ hbroken
      · rfl
    rw [htext, htext, String.append_assoc]
    rfl

/-- Indenting once more. -/
theorem indented_succ (indent : String) (copies : Nat) (line : Value) :
    indentLine indent (indented indent copies line) = indented indent (copies + 1) line := by
  rw [indented, indented, if_neg copies.succ_ne_zero, List.replicate_succ, String.join_cons]
  split
  · rename_i h
    rw [h, List.replicate_zero, String.join_nil, String.append_empty]
  · exact indentLine_indentLine _ _ _

mutual

/-- An outline is the nodes below the top in preorder, indented by the number of keys to them. -/
theorem outline_eq (indent : String) : (t : Tree α) → outline indent t =
    (nodesBelow t.entries).map fun x => indented indent (x.1.length - 1) x.2.name
  | .node _ _ _ es => outlineOf_eq indent es
termination_by structural t => t

theorem outlineOf_eq (indent : String) : (es : List (Value × Tree α)) → outlineOf indent es =
    (nodesBelow es).map fun x => indented indent (x.1.length - 1) x.2.name
  | [] => rfl
  | (key, t) :: es => by
    have hbelow : (outline indent t).map (indentLine indent) =
        (nodesBelow t.entries).map fun x => indented indent x.1.length x.2.name := by
      rw [outline_eq indent t, List.map_map]
      refine List.map_congr_left fun x hx => ?_
      have hlength := List.length_pos_iff.mpr (ne_nil_of_mem_nodesBelow hx)
      show indentLine indent (indented indent (x.1.length - 1) x.2.name) = _
      rw [indented_succ, Nat.sub_add_cancel hlength]
    rw [outlineOf, hbelow, outlineOf_eq indent es, nodesBelow, under, nodes_eq, List.map_append,
      List.map_map]
    rfl
termination_by structural es => es

end

/-! ## What stands where in the tree of a product -/

theorem level_eq_axis {t : Tree α} {j : Nat} (h : t.depth = 2 * (j + 1)) : t.level = .axis := by
  rw [level, h, Level.ofDepth, if_neg (by omega), if_neg (by omega), if_pos (by omega)]

theorem level_eq_choice {t : Tree α} {j : Nat} (h : t.depth = 2 * (j + 1) + 1) :
    t.level = .choice := by
  rw [level, h, Level.ofDepth, if_neg (by omega), if_neg (by omega), if_neg (by omega)]

/-- What a node at the end of some keys in the tree of a product below a node is. -/
structure Position (vs : List Variable) (n : Value) (depth : Int) (keys : Path) (t : Tree α) :
    Prop where
  depth_eq : t.depth = depth + keys.length
  length_of_leaf : t.leaf.isSome = true → keys.length = 2 * vs.length
  top : keys = [] → t.name = n
  /-- At odd distances stands a variable. -/
  axis : ∀ j, keys.length = 2 * j + 1 → ∃ v, vs[j]? = some v ∧ t.name = v.name
  /-- At even distances stands a candidate of it. -/
  choice : ∀ j, keys.length = 2 * j + 2 → ∃ v, vs[j]? = some v ∧ ∃ c ∈ v.values, t.name = c.name

/-- Below a candidate of a variable stands what stands below the top for the later variables. -/
theorem Position.later {v : Variable} {vs : List Variable} {c : Choice} {n : Value} {depth : Int}
    {keys : Path} {t : Tree α} (hc : c ∈ v.values)
    (h : Position vs c.name (depth + 1 + 1) keys t) :
    Position (v :: vs) n depth (v.name :: c.name :: keys) t := by
  refine ⟨?_, ?_, fun hnil => absurd hnil (List.cons_ne_nil _ _), ?_, ?_⟩
  · have hdepth := h.depth_eq
    simp only [List.length_cons]
    omega
  · intro hleaf
    have hlength := h.length_of_leaf hleaf
    simp only [List.length_cons]
    omega
  · intro j hj
    simp only [List.length_cons] at hj
    obtain ⟨i, rfl⟩ : ∃ i, j = i + 1 := ⟨j - 1, by omega⟩
    exact h.axis i (by omega)
  · intro j hj
    simp only [List.length_cons] at hj
    cases j with
    | zero => exact ⟨v, rfl, c, hc, h.top (List.length_eq_zero_iff.mp (by omega))⟩
    | succ i => exact h.choice i (by omega)

theorem position_of_at {vs : List Variable} {f : Combination → α} {bound : Entries Value}
    {depth : Int} {n : Value} {keys : Path} {t : Tree α}
    (h : At keys (product vs f bound depth n) t) : Position vs n depth keys t := by
  induction vs generalizing f bound depth n keys with
  | nil =>
    cases h with
    | here => exact ⟨(Int.add_zero depth).symm, fun _ => rfl, fun _ => rfl, nofun, nofun⟩
    | down hentry _ => exact absurd hentry List.not_mem_nil
  | cons v vs ih =>
    cases h with
    | here => exact ⟨(Int.add_zero depth).symm, nofun, fun _ => rfl, nofun, nofun⟩
    | down hentry hbelow =>
      cases List.mem_singleton.mp hentry
      cases hbelow with
      | here =>
        refine ⟨rfl, nofun, nofun, ?_, ?_⟩
        · intro j hj
          obtain rfl : j = 0 := by simpa using hj
          exact ⟨v, rfl, rfl⟩
        · intro j hj
          have hone : 1 = 2 * j + 2 := hj
          omega
      | down hchoice hlater =>
        obtain ⟨c, hc, heq⟩ := List.mem_map.mp hchoice
        cases heq
        exact (ih hlater).later hc

theorem leaves_product (vs : List Variable) (f : Combination → α) (bound : Entries Value)
    (depth : Int) (n : Value) :
    leaves (product vs f bound depth n) = (filed f vs bound).map Prod.snd := by
  induction vs generalizing f bound depth n with
  | nil => rfl
  | cons v vs ih =>
    have hbelow : leaves (product (v :: vs) f bound depth n) =
        leavesOf (v.values.map fun c => (c.name,
          product vs (after f v c) (bound.put v.name c.value) (depth + 1 + 1) c.name)) :=
      List.append_nil _
    rw [hbelow, leavesOf_eq, List.flatMap_map, filed_cons, under, List.map_map, List.map_flatMap]
    refine List.flatMap_congr fun c _ => ?_
    rw [ih, under, List.map_map]
    rfl

/--
A product has a node at the top, and for each variable as many nodes of its name as there are
combinations of the variables before it, each with the candidates below it.
-/
theorem length_nodes_product (vs : List Variable) (f : Combination → α) (bound : Entries Value)
    (depth : Int) (n : Value) : (nodes (product vs f bound depth n)).length =
      1 + ∑ i : Fin vs.length, gridSize (vs.take i) * (1 + vs[i].values.length) := by
  induction vs generalizing f bound depth n with
  | nil => rfl
  | cons v vs ih =>
    have hchoices : (nodesBelow (v.values.map fun c => (c.name, product vs (after f v c)
        (bound.put v.name c.value) (depth + 1 + 1) c.name))).length = v.values.length *
          (1 + ∑ i : Fin vs.length, gridSize (vs.take i) * (1 + vs[i].values.length)) := by
      rw [nodesBelow_eq, List.flatMap_map, List.length_flatMap]
      simp only [under, List.length_map, ih, List.map_const', List.sum_replicate, smul_eq_mul]
    have hlater : ∑ i : Fin vs.length, gridSize ((v :: vs).take (i.succ : Nat)) *
          (1 + (v :: vs)[i.succ].values.length) = v.values.length *
        ∑ i : Fin vs.length, gridSize (vs.take i) * (1 + vs[i].values.length) := by
      rw [Finset.mul_sum]
      refine Finset.sum_congr rfl fun i _ => ?_
      rw [Fin.val_succ, List.take_succ_cons, gridSize_cons, Nat.mul_assoc]
      rfl
    have htop : (nodes (product (v :: vs) f bound depth n)).length = 2 + (nodesBelow (v.values.map
        fun c => (c.name, product vs (after f v c) (bound.put v.name c.value) (depth + 1 + 1)
          c.name))).length := by
      simp only [product, nodes, nodesBelow, under, List.length_cons, List.length_map,
        List.length_append, List.length_nil]
      omega
    rw [htop, hchoices]
    show _ = 1 + ∑ i : Fin (vs.length + 1), _
    rw [Fin.sum_univ_succ, hlater]
    show _ = 1 + (1 * (1 + v.values.length) + _)
    ring

/-! ## The tree of some scenarios -/

theorem leaves_ofScenario (s : Scenario) (vs : List Variable) :
    leaves (ofScenario s vs) = casesOf s vs := by
  have hcases := congrArg (List.map Prod.snd) (byPath_casesOf s vs)
  rw [List.map_map, under, List.map_map] at hcases
  rw [ofScenario, leaves_product]
  exact hcases.symm.trans (List.map_id _)

/-- A tree shows scenarios, each with its cases, one below the other. -/
structure Nests (groups : List (Scenario × List Case)) (root : Tree Case) : Prop where
  leaves_eq : root.leaves = groups.flatMap fun g => g.2
  depth : ∀ keys t, At keys root t → t.depth = keys.length
  level_of_leaf : ∀ keys t, At keys root t → t.leaf.isSome = true → t.level = .choice
  titles : root.children.map name = groups.map fun g => g.1.title
  level_of_title : ∀ t ∈ root.children, t.level = .title
  /-- At twice the number of a variable stands that variable. -/
  axis : ∀ g ∈ groups, ∀ (vs : List Variable), g.1.items = vs.map .declared →
    ∀ keys t (j : Nat), At (g.1.title :: keys) root t → t.depth = 2 * (j + 1) →
      t.level = .axis ∧ ∃ v, vs[j]? = some v ∧ t.name = v.name
  /-- One level below stands one of its candidates. -/
  choice : ∀ g ∈ groups, ∀ (vs : List Variable), g.1.items = vs.map .declared →
    ∀ keys t (j : Nat), At (g.1.title :: keys) root t → t.depth = 2 * (j + 1) + 1 →
      t.level = .choice ∧ ∃ v, vs[j]? = some v ∧ ∃ c ∈ v.values, t.name = c.name
  /-- The outline is the nodes of one title after those of the other, in preorder. -/
  outline_eq : ∀ indent, root.outline indent = root.children.flatMap fun t =>
    t.nodes.map fun x => indented indent (x.2.depth.toNat - 1) x.2.name
  /-- The number of lines of each title. -/
  lines : List.Forall₂ (fun g t => ∀ vs : List Variable, g.1.items = vs.map .declared →
    t.nodes.length =
      1 + ∑ i : Fin vs.length, ((vs.take i).map fun v => v.values.length).prod *
        (1 + vs[i].values.length)) groups root.children

section Grids

variable {grids : List (Scenario × List Variable)}

/-- The root over the trees of some scenarios. -/
def rootOver (grids : List (Scenario × List Variable)) : Tree Case :=
  .node (.text "") 0 none (grids.map fun g => (g.1.title, ofScenario g.1 g.2))

theorem children_rootOver (grids : List (Scenario × List Variable)) :
    (rootOver grids).children = grids.map fun g => ofScenario g.1 g.2 := by
  show (grids.map fun g => (g.1.title, ofScenario g.1 g.2)).map (·.2) = _
  rw [List.map_map]
  rfl

/-- Every node but the root is in the tree of some scenario. -/
theorem at_rootOver {keys : Path} {t : Tree Case} (h : At keys (rootOver grids) t) :
    keys = [] ∧ t = rootOver grids ∨ ∃ g ∈ grids, ∃ rest, keys = g.1.title :: rest ∧
      Position g.2 g.1.title 1 rest t := by
  cases h with
  | here => exact .inl ⟨rfl, rfl⟩
  | down hc hat =>
    obtain ⟨g, hg, heq⟩ := List.mem_map.mp hc
    cases heq
    exact .inr ⟨g, hg, _, rfl, position_of_at hat⟩

/-- With different titles, what is below a title is in the tree of that scenario. -/
theorem at_rootOver_title (hdistinct : (grids.map fun g => g.1.title).Nodup)
    {g : Scenario × List Variable} (hg : g ∈ grids) {keys : Path} {t : Tree Case}
    (h : At (g.1.title :: keys) (rootOver grids) t) : Position g.2 g.1.title 1 keys t := by
  rcases at_rootOver h with ⟨hnil, -⟩ | ⟨g', hg', rest, heq, hposition⟩
  · exact absurd hnil (List.cons_ne_nil _ _)
  · obtain ⟨htitle, rfl⟩ := List.cons.inj heq
    obtain rfl := List.inj_on_of_nodup_map hdistinct hg hg' htitle
    exact hposition

theorem outline_rootOver (indent : String) (grids : List (Scenario × List Variable)) :
    (rootOver grids).outline indent = (rootOver grids).children.flatMap fun t =>
      t.nodes.map fun x => indented indent (x.2.depth.toNat - 1) x.2.name := by
  rw [children_rootOver, List.flatMap_map, Tree.outline_eq]
  show (nodesBelow (grids.map fun g => (g.1.title, ofScenario g.1 g.2))).map _ = _
  rw [nodesBelow_eq, List.flatMap_map, List.map_flatMap]
  refine List.flatMap_congr fun g _ => ?_
  rw [under, List.map_map]
  refine List.map_congr_left fun x hx => ?_
  have hdepth := (position_of_at ((mem_nodes_iff _).mp hx)).depth_eq
  show indented indent x.1.length x.2.name = _
  rw [show x.2.depth.toNat - 1 = x.1.length by omega]

end Grids

/-- Scenarios that expand, each with the variables of which its cases are the product. -/
theorem exists_kept {groups : List (Scenario × List Case)}
    (h : ∀ g ∈ groups, ∃ config t t', expand config g.1 t = (.ok g.2, t')) :
    ∃ grids : List (Scenario × List Variable),
      groups = grids.map (fun g => (g.1, casesOf g.1 g.2)) ∧
        ∀ g ∈ grids, ∃ config, Kept config g.1 g.2 := by
  induction groups with
  | nil => exact ⟨[], rfl, List.forall_mem_nil _⟩
  | cons g groups ih =>
    obtain ⟨config, t, t', hrun⟩ := h g List.mem_cons_self
    obtain ⟨vs, hkept, hcases⟩ := kept_of_expand hrun
    obtain ⟨grids, rfl, hall⟩ := ih fun f hf => h f (.tail _ hf)
    refine ⟨(g.1, vs) :: grids, ?_, List.forall_mem_cons.mpr ⟨⟨config, hkept⟩, hall⟩⟩
    rw [List.map_cons, ← hcases]

/--
The tree of the cases of some scenarios that expand, one scenario after the other, if their titles
are different. There is one, and going through it gives the cases back in this order. The nodes one
level below the root are the titles in order; below a title the nodes at the levels `2 * j` are the
variable of number `j` and those at the levels `2 * j + 1` are candidates of it; and only nodes of
candidates hold cases. The outline is the nodes in preorder, at depth `d` after `d - 1` copies of
the indentation. A scenario has one line for its title and, for each variable, as many times the
variable and its candidates as there are combinations of the variables before it.
-/
theorem ofCases_nests (defaults : Config) {groups : List (Scenario × List Case)}
    (hexpand : ∀ g ∈ groups, ∃ config t t', expand config g.1 t = (.ok g.2, t'))
    (hdistinct : (groups.map fun g => g.1.title).Nodup) :
    ∃ root, ofCases defaults (groups.flatMap fun g => g.2) = .ok root ∧ Nests groups root := by
  obtain ⟨grids, rfl, hkept⟩ := exists_kept hexpand
  rw [List.map_map] at hdistinct
  have hroot := ofCases_casesOf_all defaults hkept hdistinct
  have hvariables : ∀ g ∈ grids, ∀ vs : List Variable, g.1.items = vs.map .declared → vs = g.2 := by
    intro g hg vs hvs
    obtain ⟨config, hg⟩ := hkept g hg
    exact List.map_injective_iff.mpr (fun v w h => Item.declared.inj h) (hvs.symm.trans hg.items)
  have hpositions : ∀ g ∈ grids.map (fun g => (g.1, casesOf g.1 g.2)), ∀ vs : List Variable,
      g.1.items = vs.map .declared → ∀ keys t, At (g.1.title :: keys) (rootOver grids) t →
        Position vs g.1.title 1 keys t := by
    intro g hg vs hvs keys t hat
    obtain ⟨g, hgrid, rfl⟩ := List.mem_map.mp hg
    obtain rfl := hvariables g hgrid vs hvs
    exact at_rootOver_title hdistinct hgrid hat
  rw [List.flatMap_map]
  refine ⟨rootOver grids, hroot, ?_⟩
  constructor
  case leaves_eq =>
    show leavesOf (grids.map fun g => (g.1.title, ofScenario g.1 g.2)) = _
    rw [leavesOf_eq, List.flatMap_map, List.flatMap_map]
    exact List.flatMap_congr fun g _ => leaves_ofScenario g.1 g.2
  case depth =>
    intro keys t hat
    rcases at_rootOver hat with ⟨rfl, rfl⟩ | ⟨g, hg, rest, rfl, hposition⟩
    · rfl
    · rw [hposition.depth_eq, List.length_cons]
      omega
  case level_of_leaf =>
    intro keys t hat hleaf
    rcases at_rootOver hat with ⟨rfl, rfl⟩ | ⟨g, hg, rest, rfl, hposition⟩
    · cases hleaf
    · obtain ⟨config, hg⟩ := hkept g hg
      have hlength := hposition.length_of_leaf hleaf
      have hsome := List.length_pos_iff.mpr hg.ne_nil
      exact level_eq_choice (j := g.2.length - 1) (by rw [hposition.depth_eq]; omega)
  case titles =>
    rw [children_rootOver, List.map_map, List.map_map]
    exact List.map_congr_left fun g _ => name_product _ _ _ _ _
  case level_of_title =>
    intro t ht
    rw [children_rootOver] at ht
    obtain ⟨g, -, rfl⟩ := List.mem_map.mp ht
    have hdepth := (position_of_at (.here (ofScenario g.1 g.2))).depth_eq
    rw [level, hdepth]
    rfl
  case axis =>
    intro g hg vs hvs keys t j hat hdepth
    have hposition := hpositions g hg vs hvs keys t hat
    have hlength := hposition.depth_eq
    exact ⟨level_eq_axis hdepth, hposition.axis j (by omega)⟩
  case choice =>
    intro g hg vs hvs keys t j hat hdepth
    have hposition := hpositions g hg vs hvs keys t hat
    have hlength := hposition.depth_eq
    exact ⟨level_eq_choice hdepth, hposition.choice j (by omega)⟩
  case outline_eq => exact fun indent => outline_rootOver indent grids
  case lines =>
    rw [children_rootOver, List.forall₂_map_left_iff, List.forall₂_map_right_iff,
      List.forall₂_same]
    intro g hg vs hvs
    obtain rfl := hvariables g hg vs hvs
    exact length_nodes_product _ _ _ _ _

/-- A grid under another title. -/
def otherGrid : Scenario :=
  { gridOf 1 3 with title := .text "u" }

/-- Two grids are ten lines, five for each title. -/
theorem ofCases_otherGrid :
    ∃ root, ofCases {} (casesOf (gridOf 2 1) (axes 2 1) ++ casesOf otherGrid (axes 1 3)) =
        .ok root ∧
      Nests [(gridOf 2 1, casesOf (gridOf 2 1) (axes 2 1)),
        (otherGrid, casesOf otherGrid (axes 1 3))] root ∧
      root.outline "--" = [.text "t", .text "--v0", .text "----0", .text "------v1",
        .text "--------0", .text "u", .text "--v0", .text "----0", .text "----1",
        .text "----2"] := by
  have hfirst := expand_of_kept (gridOf_kept rfl (by decide) (by decide) (by simp) :
    Kept {} (gridOf 2 1) (axes 2 1)) default
  have hother := expand_of_kept (checkScenario_eq_ok_iff.mp rfl :
    Kept {} otherGrid (axes 1 3)) default
  have hexpand : ∀ g ∈ [(gridOf 2 1, casesOf (gridOf 2 1) (axes 2 1)),
      (otherGrid, casesOf otherGrid (axes 1 3))],
      ∃ config t t', expand config g.1 t = (.ok g.2, t') :=
    List.forall_mem_cons.mpr ⟨⟨{}, default, _, hfirst⟩,
      List.forall_mem_singleton.mpr ⟨{}, default, _, hother⟩⟩
  obtain ⟨root, hroot, hnests⟩ := ofCases_nests {} hexpand (by simp [gridOf, otherGrid])
  have hlines : (ofCases {} (casesOf (gridOf 2 1) (axes 2 1) ++
      casesOf otherGrid (axes 1 3))).map (outline "--") = .ok [.text "t", .text "--v0",
        .text "----0", .text "------v1", .text "--------0", .text "u", .text "--v0",
        .text "----0", .text "----1", .text "----2"] := by rfl
  have hroot' : ofCases {} (casesOf (gridOf 2 1) (axes 2 1) ++ casesOf otherGrid (axes 1 3)) =
      .ok root := hroot
  rw [hroot'] at hlines
  exact ⟨root, hroot', hnests, Except.ok.inj hlines⟩

end Tree

end CaseGrid
