import CaseGrid.Proofs.Collection.Cases
import CaseGrid.Proofs.Command.Inspection
import CaseGrid.Proofs.Path.RoundTrip
import CaseGrid.Proofs.Tree.Outline

/-
  What an inspection of a document prints. It has no scenario and makes no cases: it expands bare
  paths, names them itself and grows a tree of them. Where the scenario of the document can be
  expanded, these are the paths of its cases, their names, and the outline of the tree that its
  cases are filed in; filing them never fails.

  Proved: `inspect_lists_cases`, line by line and with either way of listing.
-/

namespace CaseGrid

open CaseGrid.Validation CaseGrid.Expansion

/-- The scenario of a text is that of the document that was loaded. -/
theorem Scenario.exists_of_ofYaml {text : String} {compute check : Step} {x : Scenario}
    {t t' : Trace} (h : Scenario.ofYaml text compute check t = (.ok x, t')) :
    ∃ d, d.Labelled ∧ (∀ u, (Document.load text u).1 = .ok d) ∧ x = d.scenario compute check := by
  obtain ⟨d, t₁, hload, h⟩ := Session.bind_eq_ok h
  cases h
  obtain ⟨outcome, hends⟩ := Document.load_ends text
  obtain rfl : outcome = .ok d := by rw [← hends.outcome t, hload]
  cases hends with
  | read hd hrun => exact ⟨d, hd, hrun, rfl⟩

/-- The variables that were checked are those of the document. -/
theorem Document.eq_declared_of_kept {config : Config} {d : Document Value} {compute check : Step}
    {vs : List Variable} (h : Kept config (d.scenario compute check) vs) :
    vs = d.declared ∧ d.Described config := by
  have hitems : d.declared.map Item.declared = vs.map .declared := h.items
  refine ⟨(List.map_injective_iff.mpr (fun _ _ heq => Item.declared.inj heq) hitems).symm, ?_⟩
  exact ((Document.kept_scenario_iff h.frame.compute_callable
    h.frame.check_callable).mp ⟨vs, h⟩).1

/-- The cases of variables stand at the paths of their combinations. -/
theorem Expansion.map_path_casesOf (x : Scenario) (vs : List Variable) :
    (casesOf x vs).map Case.path = (combine vs [x.title] []).map (·.1) := by
  rw [casesOf, List.map_map]
  rfl

/-- The names of cases are the written forms of their paths. -/
theorem Case.mapM_name (defaults : Config) (cases : List Case) :
    cases.mapM (Case.name defaults) =
      (cases.map Case.path).mapM (Path.format defaults.separator) := by
  rw [List.mapM_map]
  rfl

namespace Command

/--
Where the scenario of a document can be expanded, its cases have names and a tree. An inspection of
the document prints a line with the title and the numbers of variables and cases, and below it, each
one indented, the names in the order of the expansion, or the outline of the tree.
-/
theorem inspect_lists_cases {defaults : Config} {s : Surroundings} {target text : String}
    {compute check : Step} {x : Scenario} {cases : List Case} {u u₁ u₂ : Trace}
    (hfile : s.readText target = .ok text)
    (hending : documentEndings.contains (Target.ending target) = true)
    (hload : Scenario.ofYaml text compute check u = (.ok x, u₁))
    (hexpand : expand defaults x u₁ = (.ok cases, u₂)) :
    ∃ names tree, cases.mapM (Case.name defaults) = .ok names ∧
      Tree.ofCases defaults cases = .ok tree ∧
      ∀ (asTree : Bool) (t : Trace), ∃ t', inspect defaults s target asTree t = (.ok (), t') ∧
        t'.printed = t.printed ++ heading x.title.label x.items.length cases.length ::
          (if asTree then (tree.outline Tree.defaultIndent).map Value.label else names).map
            ("  " ++ ·) := by
  obtain ⟨d, hd, hrun, rfl⟩ := Scenario.exists_of_ofYaml hload
  obtain ⟨vs, hkept, rfl⟩ := kept_of_expand hexpand
  obtain ⟨rfl, hdescribed⟩ := Document.eq_declared_of_kept hkept
  obtain ⟨below, htree, -⟩ := Tree.ofCases_casesOf hkept defaults
  obtain ⟨names, hnames⟩ := exists_mapM_eq_ok fun c hc =>
    Case.exists_name (Case.path_texts hkept hc) defaults
  refine ⟨names, _, hnames, htree, fun asTree t => ?_⟩
  obtain ⟨names', grown, hnames', hgrown, hinspect⟩ := inspectDocument_lists defaults asTree hfile
    hd hrun hdescribed (map_path_casesOf (d.scenario compute check) d.declared)
    (Session.log Log.info logger ("Inspecting scenarios from: " ++ target) t).2
  -- The names and the tree that the inspection makes of the paths are those of the cases.
  rw [← Case.mapM_name] at hnames'
  cases hnames.symm.trans hnames'
  cases (Tree.ofPaths_of_ofCases htree).symm.trans hgrown
  refine ⟨_, (inspect_eq hending t).trans (guarded_run_ok target hinspect), ?_⟩
  rw [Tree.outline_hollow, List.length_map]
  simp [Session.log, Document.scenario, Document.declared]

theorem exists_of_expandText {text : String} {compute check : Step} {t : Trace}
    (h : (expandText text compute check t).1.isOk = true) :
    ∃ x cases u u', Scenario.ofYaml text compute check t = (.ok x, u) ∧
      expand {} x u = (.ok cases, u') := by
  match hrun : expandText text compute check t with
  | (.error _, _) =>
    rw [hrun] at h
    cases h
  | (.ok cases, u') =>
    obtain ⟨x, u, hload, hexpand⟩ := Session.bind_eq_ok hrun
    exact ⟨x, cases, u, u', hload, hexpand⟩

/-- A document with two variables, whose candidates are named by a number, a truth value and a
text. -/
def labelsText : String :=
  "title: t\nvariables:\n  - \x7bname: a, values: [1, true]\x7d\n" ++
    "  - \x7bname: b, values: \x7bx: 0\x7d\x7d\n"

/-- The scenario of that document is expanded, and an inspection prints the tree of its cases. -/
theorem inspect_lists_labelsText :
    ∃ x cases u u' names tree,
      Scenario.ofYaml labelsText (.constant .null) (.constant .null) default = (.ok x, u) ∧
      expand {} x u = (.ok cases, u') ∧ cases.mapM (Case.name {}) = .ok names ∧
      Tree.ofCases {} cases = .ok tree ∧
      (inspect {} (textEverywhere labelsText) "s.yaml" true default).2.printed =
        heading x.title.label x.items.length cases.length ::
          ((tree.outline Tree.defaultIndent).map Value.label).map ("  " ++ ·) ∧
      (inspect {} (textEverywhere labelsText) "s.yaml" true default).2.printed =
        ["\nt: 2 variables, 2 cases", "  t", "    a", "      1", "        b", "          x",
          "      True", "        b", "          x"] := by
  have hfile : (textEverywhere labelsText).readText "s.yaml" = .ok labelsText :=
    readText_textEverywhere (by decide +kernel) (by decide +kernel)
  have hok : (expandText labelsText (.constant .null) (.constant .null) default).1.isOk = true := by
    decide +kernel
  obtain ⟨x, cases, u, u', hload, hexpand⟩ := exists_of_expandText hok
  obtain ⟨names, tree, hnames, htree, hinspect⟩ :=
    inspect_lists_cases hfile (by decide +kernel) hload hexpand
  obtain ⟨t', hrun, hprinted⟩ := hinspect true default
  refine ⟨x, cases, u, u', names, tree, hload, hexpand, hnames, htree, ?_, ?_⟩
  · rw [hrun, hprinted]
    rfl
  · decide +kernel

end Command

end CaseGrid
