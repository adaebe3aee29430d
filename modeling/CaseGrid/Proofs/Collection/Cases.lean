import CaseGrid.Collection
import CaseGrid.Proofs.Tree.Product

/-
  Collecting a scenario. The tree of its cases is the tree of a product, in which going down finds
  the cases in order, each under the names on its path.

  Proved: the tree of the cases of a scenario (`ofCases_casesOf`), what executing a tree goes
  through (`executeNode_ok`), and from these how collecting ends, case by case (`collect_ends`). It
  can end with something else than a malformed scenario: with the fault that a number is too long
  to be told of.
-/

namespace CaseGrid

open CaseGrid.Validation CaseGrid.Expansion

/-! ## The tree of a scenario -/

namespace Tree

/-- The tree of the cases of a scenario has one node below the top, that of the title. -/
theorem ofCases_casesOf {config : Config} {s : Scenario} {vs : List Variable}
    (h : Kept config s vs) (defaults : Config) :
    ∃ t, ofCases defaults (casesOf s vs) = .ok (.node (.text "") 0 none [(s.title, t)]) ∧
      t.name = s.title ∧ t.leaf = none ∧
      found t = (casesOf s vs).map fun c => (c.path, c) := by
  have hkept : ∀ g ∈ [(s, vs)], ∃ config, Kept config g.1 g.2 := by simpa using ⟨config, h⟩
  have hroot := ofCases_casesOf_all defaults hkept (List.nodup_singleton _)
  rw [List.flatMap_singleton] at hroot
  exact ⟨ofScenario s vs, hroot, name_product _ _ _ _ _, leaf_product h.ne_nil _ _ _ _,
    found_ofScenario s vs⟩

end Tree

/-! ## Going through a tree -/

namespace CaseNode

mutual

/-- The cases of a node in order, each with its identifier. -/
def items : CaseNode → List (String × Case)
  | .group _ children => itemsOf children
  | .item id c _ => [(id, c)]
termination_by structural node => node

/-- The cases of some nodes in order. -/
def itemsOf : List CaseNode → List (String × Case)
  | [] => []
  | node :: nodes => items node ++ itemsOf nodes
termination_by structural nodes => nodes

end

end CaseNode

namespace Collection

open CaseNode (items itemsOf)

/-- The identifier of what is found below a node at the end of some names. -/
def nodeIdAt (parent : String) (names : Path) : String :=
  names.foldl (fun id name => nodeId id name.label) parent

mutual

/-- Executing a node never fails and goes through what is found by going down from it. -/
theorem executeNode_ok (defaults : Config) (parent : String) :
    ∀ (t : Tree Case) (u : Trace), ∃ node u', executeNode defaults parent t u = (.ok node, u') ∧
      node.items = t.found.map fun x => (nodeIdAt parent x.1, x.2)
  | .node name _ leaf entries, u => by
    cases leaf with
    | some c => exact ⟨.item (nodeId parent name.label) c _, _, rfl, rfl⟩
    | none =>
      obtain ⟨nodes, u', hrun, hitems⟩ :=
        executeNodes_ok defaults (nodeId parent name.label) entries u
      refine ⟨.group (nodeId parent name.label) nodes, u', Session.bind_run_ok hrun, ?_⟩
      rw [items, hitems, Tree.found_node_none, List.map_map]
      rfl
termination_by structural t => t

/-- Executing some nodes never fails and goes through what is found from them, in order. -/
theorem executeNodes_ok (defaults : Config) (parent : String) :
    ∀ (es : List (Value × Tree Case)) (u : Trace), ∃ nodes u',
      executeNodes defaults parent es u = (.ok nodes, u') ∧
      itemsOf nodes = (Tree.foundBelow es).map fun x => (nodeIdAt parent x.1, x.2)
  | [], u => ⟨[], u, rfl, rfl⟩
  | (_, t) :: es, u => by
    obtain ⟨node, u₁, hnode, hitem⟩ := executeNode_ok defaults parent t u
    obtain ⟨nodes, u₂, hnodes, hitems⟩ := executeNodes_ok defaults parent es u₁
    refine ⟨node :: nodes, u₂, ?_, ?_⟩
    · exact (Session.bind_run_ok hnode).trans (Session.bind_run_ok hnodes)
    · rw [itemsOf, hitem, hitems, Tree.foundBelow, List.map_append]
termination_by structural es => es

end

/-! ## Collecting -/

section Collecting

variable {defaults : Config} {c : Collector}

theorem collect_of_conflict {e : SpecificationError} (h : c.conflict = some e) (t : Trace) :
    collect defaults c t = (.error (.specification e), t) := by
  rw [collect, h]
  rfl

/-- A collector without a conflict fails as the expansion does. -/
theorem collect_of_expand_error {f : Failure} {t t' : Trace} (h : c.conflict = none)
    (hexpand : expand defaults c.scenario t = (.error f, t')) :
    collect defaults c t = (.error f, t') := by
  rw [collect, h]
  exact Session.bind_run_error hexpand

/-- Once the scenario is expanded nothing fails, and going down finds the cases in order. -/
theorem collect_of_expand {cases : List Case} {t t' : Trace} (h : c.conflict = none)
    (hexpand : expand defaults c.scenario t = (.ok cases, t')) :
    ∃ root tree t'', Tree.ofCases defaults cases = .ok root ∧
      root.get [c.scenario.title] = .ok tree ∧ collect defaults c t = (.ok tree, t'') ∧
      tree.name = c.scenario.title ∧ tree.leaf = none ∧
      tree.found = cases.map fun d => (d.path, d) := by
  obtain ⟨vs, hkept, rfl⟩ := kept_of_expand hexpand
  obtain ⟨tree, hroot, hname, hleaf, hfound⟩ := Tree.ofCases_casesOf hkept defaults
  have htitle : c.scenario.title.IsText := by
    obtain ⟨ps, hps, -⟩ := hkept.frame.title
    exact ⟨ps, hps⟩
  have hchild : Entries.get? [(c.scenario.title, tree)] c.scenario.title = some tree := by
    rw [Entries.get?, if_pos (htitle.alike_iff.mpr rfl)]
  have hget : (Tree.node (.text "") 0 none [(c.scenario.title, tree)]).get [c.scenario.title] =
      .ok tree := by
    rw [Tree.get]
    refine bind_eq_ok_iff.mpr ⟨c.scenario.title, htitle.key, ?_⟩
    rw [Tree.child?, Tree.entries, hchild]
    rfl
  have hlater (u : Trace) : (Session.ofExcept (Tree.ofCases defaults (casesOf c.scenario vs)) >>=
      fun root => Session.ofFault (root.get [c.scenario.title])) u = (.ok tree, u) := by
    rw [hroot]
    show Session.ofFault (Tree.get [c.scenario.title] _) u = _
    rw [hget]
    rfl
  obtain ⟨t'', hlog⟩ : ∃ t'', Session.log Log.debug logger ("Collected " ++
      toString (casesOf c.scenario vs).length ++ " case(s) for " ++ c.id) t' = (.ok (), t'') :=
    ⟨_, Session.log_run _ _ _ t'⟩
  have hcollect : collect defaults c t = (.ok tree, t'') := by
    rw [collect, h]
    refine (Session.bind_run_ok hexpand).trans ?_
    exact (Session.bind_run_ok hlog).trans (hlater t'')
  exact ⟨_, tree, t'', hroot, hget, hcollect, hname, hleaf, hfound⟩

end Collecting

theorem collect_error_iff {f : Failure} (h : c.conflict = none) (t : Trace) :
    (collect defaults c t).1 = .error f ↔ (expand defaults c.scenario t).1 = .error f := by
  match hexpand : expand defaults c.scenario t with
  | (.error g, t') => simp [collect_of_expand_error h hexpand]
  | (.ok cases, t') =>
    obtain ⟨-, tree, t'', -, -, hcollect, -⟩ := collect_of_expand h hexpand
    simp [hcollect]

theorem specification_iff (defaults : Config) (c : Collector) (t : Trace) :
    (∃ e, (collect defaults c t).1 = .error (.specification e)) ↔
      (∃ e, c.conflict = some e) ∨
        ∃ e, (expand defaults c.scenario t).1 = .error (.specification e) := by
  match hconflict : c.conflict with
  | some e => simp [collect_of_conflict hconflict]
  | none => simp [collect_error_iff hconflict]

/-- Anything else is the fault that a number is too long for an error of the expansion. -/
theorem other_iff (defaults : Config) (c : Collector) (t : Trace) :
    (∃ f, (collect defaults c t).1 = .error f ∧ ∀ e, f ≠ .specification e) ↔
      c.conflict = none ∧ ∃ r, Rejected defaults c.scenario r ∧ r.isTooLong = true := by
  match hconflict : c.conflict with
  | some e => simp [collect_of_conflict hconflict]
  | none =>
    constructor
    · rintro ⟨f, hf, hother⟩
      rw [collect_error_iff hconflict] at hf
      rcases expand_ending defaults c.scenario t with ⟨vs, -, hrun⟩ | ⟨r, -, -, hrun⟩ | hlong
      · rw [hrun] at hf
        cases hf
      · rw [hrun] at hf
        exact absurd (Except.error.inj hf).symm (hother _)
      · obtain ⟨r, hr, hlong, -⟩ := hlong
        exact ⟨rfl, r, hr, hlong⟩
    · rintro ⟨-, r, hr, hlong⟩
      refine ⟨.fault .numberTooLong, ?_, by simp⟩
      rw [collect_error_iff hconflict, expand_of_untold hr (error_of_untold hlong)]

/-- Running a collector whose cases were collected goes through what is found from its node. -/
theorem run_of_collect {defaults : Config} {c : Collector} {tree : Tree Case} {t t' : Trace}
    (h : collect defaults c t = (.ok tree, t')) :
    ∃ nodes u, run defaults c t = (.ok (c, .ok nodes), u) ∧
      itemsOf nodes = (Tree.foundIn tree.children).map fun x => (nodeIdAt c.id x.1, x.2) := by
  rw [Tree.foundIn_children_eq]
  obtain ⟨nodes, u, hnodes, hitems⟩ := executeNodes_ok defaults c.id tree.entries t'
  refine ⟨nodes, u, ?_, hitems⟩
  rw [run, Session.bind_run_ok (Session.attempt_run h)]
  exact (Session.bind_run_ok hnodes).trans rfl

/-- Below a node that holds nothing is found what is found from it, without its own name. -/
theorem foundIn_children {t : Tree Case} (h : t.leaf = none) :
    t.found = (Tree.foundIn t.children).map fun x => (t.name :: x.1, x.2) := by
  rw [Tree.foundIn_children_eq]
  obtain ⟨name, _, leaf, entries⟩ := t
  obtain rfl : leaf = none := h
  rfl

/--
How collecting a scenario ends. It fails with a malformed scenario exactly if there is a conflict or
the expansion does, and with anything else only where there is no conflict and a number is too long
for the error of the first broken rule. Otherwise the tree is built, the node of the title is there,
and going down from it finds the cases of the expansion in order, each once, the names on the way
being its path; running the collector goes through them in this order.
-/
theorem collect_ends (defaults : Config) (c : Collector) (t : Trace) :
    ((∃ e, (collect defaults c t).1 = .error (.specification e)) ↔
      (∃ e, c.conflict = some e) ∨
        ∃ e, (expand defaults c.scenario t).1 = .error (.specification e)) ∧
    ((∃ f, (collect defaults c t).1 = .error f ∧ ∀ e, f ≠ .specification e) ↔
      c.conflict = none ∧ ∃ r, Rejected defaults c.scenario r ∧ r.isTooLong = true) ∧
    ∀ cases t', c.conflict = none → expand defaults c.scenario t = (.ok cases, t') →
      ∃ root tree t'', Tree.ofCases defaults cases = .ok root ∧
        root.get [c.scenario.title] = .ok tree ∧ collect defaults c t = (.ok tree, t'') ∧
        tree.name = c.scenario.title ∧ (cases.map Case.path).Nodup ∧
        ((Tree.foundIn tree.children).map fun x => (tree.name :: x.1, x.2)) =
          cases.map (fun d => (d.path, d)) ∧
        ∃ nodes u, run defaults c t = (.ok (c, .ok nodes), u) ∧
          itemsOf nodes = cases.map fun d => (nodeIdAt c.id d.path.tail, d) := by
  refine ⟨specification_iff defaults c t, other_iff defaults c t, ?_⟩
  intro cases t' hconflict hexpand
  obtain ⟨root, tree, t'', hroot, hget, hcollect, hname, hleaf, hfound⟩ :=
    collect_of_expand hconflict hexpand
  obtain ⟨nodes, u, hrun, hitems⟩ := run_of_collect hcollect
  obtain ⟨vs, hkept, rfl⟩ := kept_of_expand hexpand
  rw [foundIn_children hleaf] at hfound
  refine ⟨root, tree, t'', hroot, hget, hcollect, hname, Suite.nodup_paths_casesOf hkept, hfound,
    nodes, u, hrun, ?_⟩
  have htails := congrArg (List.map fun x => (nodeIdAt c.id x.1.tail, x.2)) hfound
  rw [List.map_map, List.map_map] at htails
  rw [hitems]
  exact htails

/-- The node of a grid in a module. -/
def gridCollector (n k : Nat) : Collector :=
  ⟨"m::t", gridOf n k, none⟩

/-- Two variables with two candidates each are four items in the order of the product. -/
theorem collect_gridCollector :
    ∃ nodes u, run {} (gridCollector 2 2) default = (.ok (gridCollector 2 2, .ok nodes), u) ∧
      (itemsOf nodes).map Prod.fst =
        ["m::t::v0::0::v1::0", "m::t::v0::0::v1::1", "m::t::v0::1::v1::0", "m::t::v0::1::v1::1"] := by
  have hkept : Kept {} (gridOf 2 2) (axes 2 2) :=
    gridOf_kept rfl (by decide) (by decide) (by simp)
  obtain ⟨-, -, hcollected⟩ := collect_ends {} (gridCollector 2 2) default
  obtain ⟨_, _, _, -, -, -, -, -, -, nodes, u, hrun, hitems⟩ :=
    hcollected _ _ rfl (expand_of_kept hkept default)
  refine ⟨nodes, u, hrun, ?_⟩
  rw [hitems]
  rfl

/-- A grid with a limit that it breaks, although no error tells of it, fails with a fault. -/
theorem collect_gridCollector_untold :
    (¬ ∃ vs, Kept { maxCases := some 1000 } (gridOf 2150 100) vs) ∧
      (collect { maxCases := some 1000 } (gridCollector 2150 100) default).1 =
        .error (.fault .numberTooLong) := by
  obtain ⟨r, hrejected, hlong⟩ := gridOf_too_long
  refine ⟨not_kept_iff.mpr ⟨r, hrejected⟩, ?_⟩
  rw [collect_error_iff rfl]
  show (expand { maxCases := some 1000 } (gridOf 2150 100) default).1 = _
  rw [expand_of_untold hrejected (error_of_untold hlong)]

end Collection

end CaseGrid
