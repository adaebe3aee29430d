import CaseGrid.Command.Basic
import CaseGrid.Proofs.Document.Reading
import CaseGrid.Proofs.Expansion.Outcome

/-
  Inspecting a scenario document beside expanding the scenario that it describes. Both load the
  document. The expansion then checks all rules for scenarios, while the inspection has no scenario
  and checks those on the title and the variables only: the rules on the name of the result, that
  it is an identifier and no name of a variable, are not among them.

  Proved: how each of the two ends, from how loading ends (`inspectDocument_of_load_error`,
  `inspectDocument_of_described`, `inspectDocument_of_not_described`, `expandText_of_load_error`,
  `expandText_of_load`), and from these that the two accept the same documents as far as the rules
  on the name of the result are kept. Nothing that is inspected has to show a whole number, so every
  rejection is told.
-/

namespace CaseGrid

open CaseGrid.Text (Points isIdentifier)
open CaseGrid.Validation

/-! ## The rules that a document keeps -/

namespace Document

/-- The name under which the assertion receives the result. -/
def resultKey (d : Document Value) : Value :=
  d.resultName.getD defaultResultName

/-- The rules on the title and the variables of a document. -/
structure Described (config : Config) (d : Document Value) : Prop where
  title : IsLabel config.separator d.title
  ne_nil : d.declared ≠ []
  declared : VariablesKept config.separator [] d.declared
  within : ∀ limit ∈ config.maxCases, (gridSize d.declared : Int) ≤ limit

/-- The rules on the name of the result: an identifier, and no name of a variable. -/
structure ResultFree (d : Document Value) : Prop where
  identifier : ∃ r, d.resultKey = .text r ∧ isIdentifier r = true
  free : ∀ v ∈ d.declared, v.name ≠ d.resultKey

end Document

namespace Validation

theorem variablesKept_singleton_iff {separator : String} {name : Value} {vs : List Variable} :
    VariablesKept separator [name] vs ↔
      VariablesKept separator [] vs ∧ ∀ v ∈ vs, v.name ≠ name := by
  constructor
  · rintro ⟨heach, hdistinct⟩
    refine ⟨⟨fun v hv => ?_, hdistinct⟩, fun v hv => ?_⟩
    · obtain ⟨hname, hvalues, hchoices⟩ := heach v hv
      exact ⟨⟨hname.identifier, List.not_mem_nil⟩, hvalues, hchoices⟩
    · simpa using (heach v hv).name.not_reserved
  · rintro ⟨⟨heach, hdistinct⟩, hfree⟩
    refine ⟨fun v hv => ?_, hdistinct⟩
    obtain ⟨hname, hvalues, hchoices⟩ := heach v hv
    exact ⟨⟨hname.identifier, by simpa using hfree v hv⟩, hvalues, hchoices⟩

/-! ## Every rejection of texts is told -/

theorem LabelBroken.isTooLong {what separator : String} {v : Value} {w : Violation}
    (h : LabelBroken what separator v w) (hv : v.IsText) : w.isTooLong = false := by
  cases h with
  | noText _ => exact hv.isTooLong
  | separatorInside _ _ _ => rfl

theorem ChoicesBroken.isTooLong {separator : String} {cs : List Choice} {w : Violation}
    (h : ChoicesBroken separator cs w) (hcs : ∀ c ∈ cs, c.name.IsText) : w.isTooLong = false := by
  cases h with
  | label hcs' _ hc => exact hc.isTooLong (hcs _ (by simp [hcs']))
  | repeated _ _ _ _ _ => rfl

theorem VariableBroken.isTooLong {separator : String} {reserved earlier : List Value}
    {v : Variable} {w : Violation} (h : VariableBroken separator reserved earlier v w)
    (hv : ∀ c ∈ v.values, c.name.IsText) : w.isTooLong = false := by
  cases h with
  | name h => cases h <;> rfl
  | noValues _ _ _ => rfl
  | choices _ _ _ h => exact h.isTooLong hv

/-- Where there are texts only and no limit, no rejection has to show a number. -/
theorem ListRejected.isTooLong {config : Config} {title : Value} {vs : List Variable}
    {reserved : List Value} {r : Rejection}
    (h : ListRejected config title (vs.map .declared) reserved r) (hconfig : config.maxCases = none)
    (htitle : title.IsText) (hvs : ∀ v ∈ vs, v.name.IsText ∧ ∀ c ∈ v.values, c.name.IsText) :
    r.isTooLong = false := by
  cases h with
  | title h => simp [Rejection.isTooLong, h.isTooLong htitle, Value.isTooLong, Scalar.isTooLong]
  | noVariables _ _ =>
    simp [Rejection.isTooLong, Violation.isTooLong, htitle.isTooLong, Value.isTooLong,
      Scalar.isTooLong]
  | @item before item after w _ hitems _ h =>
    have hmem : item ∈ vs.map Item.declared := by simp [hitems]
    obtain ⟨v, hv, rfl⟩ := List.mem_map.mp hmem
    obtain ⟨hname, hvalues⟩ := hvs v hv
    cases h with
    | declared h =>
      have hnamed : (Item.declared v).name.isTooLong = false := hname.isTooLong
      simp [Rejection.isTooLong, h.isTooLong hvalues, htitle.isTooLong, hnamed]
  | tooMany _ _ _ _ hlimit _ =>
    rw [hconfig] at hlimit
    cases hlimit

end Validation

namespace Document

theorem Labelled.declared {d : Document Value} (h : d.Labelled) :
    ∀ v ∈ d.declared, v.name.IsText ∧ ∀ c ∈ v.values, c.name.IsText := by
  intro v hv
  obtain ⟨x, hx, rfl⟩ := List.mem_map.mp hv
  obtain ⟨hname, hvalues⟩ := h.axes x hx
  refine ⟨hname, fun c hc => ?_⟩
  obtain ⟨e, he, rfl⟩ := List.mem_map.mp hc
  exact hvalues e he

/-- The check without a scenario passes the documents that keep the rules on their variables. -/
theorem checkVariables_eq_ok_iff_described {config : Config} {d : Document Value}
    {vs : List Variable} :
    checkVariables config d.title (d.declared.map .declared) [] = .ok vs ↔
      vs = d.declared ∧ d.Described config := by
  rw [checkVariables_eq_ok_iff]
  constructor
  · rintro ⟨htitle, hitems, hne, hkept, hwithin⟩
    obtain rfl : d.declared = vs :=
      List.map_injective_iff.mpr (fun v w h => Item.declared.inj h) hitems
    exact ⟨rfl, htitle, hne, hkept, hwithin⟩
  · rintro ⟨rfl, htitle, hne, hkept, hwithin⟩
    exact ⟨htitle, rfl, hne, hkept, hwithin⟩

section Steps

variable {config : Config} {d : Document Value} {compute check : Step}

/-- The check of the scenario demands the rules on the name of the result as well. -/
theorem kept_scenario_iff (hcompute : compute.isCallable = true) (hcheck : check.isCallable = true) :
    (∃ vs, Kept config (d.scenario compute check) vs) ↔ d.Described config ∧ d.ResultFree := by
  constructor
  · rintro ⟨vs, ⟨⟨-, -, hresult, htitle⟩, hitems, hne, hkept, hwithin⟩⟩
    obtain rfl : d.declared = vs :=
      List.map_injective_iff.mpr (fun v w h => Item.declared.inj h) hitems
    obtain ⟨hdeclared, hfree⟩ := variablesKept_singleton_iff.mp hkept
    exact ⟨⟨htitle, hne, hdeclared, hwithin⟩, ⟨hresult, hfree⟩⟩
  · rintro ⟨⟨htitle, hne, hdeclared, hwithin⟩, ⟨hresult, hfree⟩⟩
    exact ⟨d.declared, ⟨hcompute, hcheck, hresult, htitle⟩, rfl, hne,
      variablesKept_singleton_iff.mpr ⟨hdeclared, hfree⟩, hwithin⟩

theorem isTooLong_of_rejected {r : Rejection} (hd : d.Labelled) (hconfig : config.maxCases = none)
    (h : Rejected config (d.scenario compute check) r) : r.isTooLong = false := by
  have htitle : (d.scenario compute check).title.isTooLong = false := hd.title.isTooLong
  cases h with
  | listed _ _ _ h => exact h.isTooLong hconfig hd.title hd.declared
  | compute _ => simp [Rejection.isTooLong, Violation.isTooLong, htitle, Value.isTooLong,
      Scalar.isTooLong]
  | check _ _ => simp [Rejection.isTooLong, Violation.isTooLong, htitle, Value.isTooLong,
      Scalar.isTooLong]
  | result _ _ _ => simp [Rejection.isTooLong, Violation.isTooLong, htitle, Value.isTooLong,
      Scalar.isTooLong]

end Steps

end Document

/-! ## The scenario of a text, expanded -/

/-- The cases of the scenario that a text describes, under the default settings. -/
def Expansion.expandText (text : String) (compute check : Step) : Session (List Case) := do
  let s ← Scenario.ofYaml text compute check
  Expansion.expand {} s

/-- An operation that ended because of a malformed scenario. -/
def Malformed {α : Type} (outcome : Except Failure α) : Prop :=
  ∃ e, outcome = .error (.specification e)

namespace Expansion

variable {text : String} {compute check : Step}

theorem expandText_of_load_error (compute check : Step) {f : Failure}
    (h : ∀ t, (Document.load text t).1 = .error f)
    (t : Trace) : (expandText text compute check t).1 = .error f := by
  have hload := h t
  rw [expandText, Scenario.ofYaml]
  match hrun : Document.load text t with
  | (.ok d, t') =>
    rw [hrun] at hload
    cases hload
  | (.error g, t') =>
    rw [hrun] at hload
    cases hload
    rw [Session.bind_run_error (Session.bind_run_error hrun)]

/-- Expanding a document that was loaded fails exactly when some rule is broken, and then with the
error for a malformed scenario. -/
theorem expandText_of_load {d : Document Value} (hd : d.Labelled)
    (h : ∀ t, (Document.load text t).1 = .ok d) (hcompute : compute.isCallable = true)
    (hcheck : check.isCallable = true) (t : Trace) :
    Malformed (expandText text compute check t).1 ↔ ¬ (d.Described {} ∧ d.ResultFree) := by
  have hload := h t
  rw [← Document.kept_scenario_iff hcompute hcheck, expandText, Scenario.ofYaml]
  match hrun : Document.load text t with
  | (.error g, t') =>
    rw [hrun] at hload
    cases hload
  | (.ok d', t') =>
    rw [hrun] at hload
    cases hload
    have hscenario := Session.bind_run_ok (f := fun d => pure (d.scenario compute check)) hrun
    rw [Session.bind_run_ok (hscenario.trans (Session.pure_run _ _))]
    rcases expand_ending {} (d.scenario compute check) t' with
      ⟨vs, hvs, hend⟩ | ⟨r, hr, -, hend⟩ | ⟨r, hr, hlong, -⟩
    · rw [hend]
      exact iff_of_false (by rintro ⟨e, ⟨⟩⟩) (not_not_intro ⟨vs, hvs⟩)
    · rw [hend]
      exact iff_of_true ⟨_, rfl⟩ (not_kept_iff.mpr ⟨r, hr⟩)
    · rw [Document.isTooLong_of_rejected hd rfl hr] at hlong
      cases hlong

end Expansion

/-! ## Printing paths of texts -/

namespace Expansion

/-- The paths of variables whose names are texts hold texts. -/
theorem isText_of_mem_combine {vs : List Variable} {path : Path} {bound : Entries Value}
    (hpath : ∀ v ∈ path, v.IsText)
    (hvs : ∀ v ∈ vs, v.name.IsText ∧ ∀ c ∈ v.values, c.name.IsText) :
    ∀ x ∈ combine vs path bound, ∀ v ∈ x.1, v.IsText := by
  induction vs generalizing path bound with
  | nil =>
    intro x hx
    obtain rfl := List.mem_singleton.mp hx
    exact hpath
  | cons w vs ih =>
    intro x hx
    obtain ⟨c, hc, hx⟩ := List.mem_flatMap.mp hx
    obtain ⟨hname, hvalues⟩ := hvs w List.mem_cons_self
    refine ih (fun v hv => ?_) (fun v hv => hvs v (List.mem_cons_of_mem w hv)) x hx
    rcases List.mem_append.mp hv with hv | hv
    · exact hpath v hv
    · rcases List.mem_cons.mp hv with rfl | hv
      · exact hname
      · obtain rfl := List.mem_singleton.mp hv
        exact hvalues c hc

theorem paths_of_described {config : Config} {d : Document Value} (h : d.Described config)
    (t : Trace) :
    paths config d.title (d.declared.map .declared) t =
      (.ok ((combine d.declared [d.title] []).map (·.1)), t) := by
  have hcheck := Document.checkVariables_eq_ok_iff_described.mpr ⟨rfl, h⟩
  have haccept : acceptItems config d.title (d.declared.map .declared) [] t =
      (.ok d.declared, t) := by
    rw [acceptItems, hcheck]
    rfl
  rw [paths, Session.bind_run_ok haccept]
  rfl

theorem paths_of_not_described {config : Config} {d : Document Value} (hd : d.Labelled)
    (hconfig : config.maxCases = none) (h : ¬ d.Described config) (t : Trace) :
    Malformed (paths config d.title (d.declared.map .declared) t).1 := by
  cases hcheck : checkVariables config d.title (d.declared.map .declared) [] with
  | ok vs => exact absurd (Document.checkVariables_eq_ok_iff_described.mp hcheck).2 h
  | error r =>
    have hlong := (checkVariables_eq_error_iff.mp hcheck).isTooLong hconfig hd.title hd.declared
    refine ⟨.make r.violation.message r.scenario r.variableName none, ?_⟩
    have hreport : acceptItems config d.title (d.declared.map .declared) [] t =
        (.error (.specification (.make r.violation.message r.scenario r.variableName none)),
          (Session.log Log.error logger ("Invalid scenario definition: " ++
            (SpecificationError.make r.violation.message r.scenario r.variableName none).message)
            t).2) := by
      rw [acceptItems, hcheck]
      show (Session.ofFault r.error >>= _) t = _
      rw [error_of_told hlong]
      rfl
    rw [paths, Session.bind_run_error hreport]

end Expansion

namespace Tree

variable {α : Type}

theorem changeChild_eq_ok {change : Tree α → Except Fault (Tree α)}
    (h : ∀ t, ∃ t', change t = .ok t') (depth : Int) (key : Value) (es : Entries (Tree α)) :
    ∃ es', changeChild change depth key es = .ok es' := by
  induction es with
  | nil =>
    obtain ⟨t, ht⟩ := h (bareAt (depth + 1) key)
    exact ⟨[(key, t)], by rw [changeChild, ht]; rfl⟩
  | cons e es ih =>
    obtain ⟨t, ht⟩ := h e.2
    obtain ⟨es', hes'⟩ := ih
    rw [changeChild]
    split
    · exact ⟨(e.1, t) :: es, by rw [ht]; rfl⟩
    · exact ⟨e :: es', by rw [hes']; rfl⟩

theorem grow_of_texts {path : Path} (h : ∀ v ∈ path, v.IsText) (t : Tree α) :
    ∃ t', grow path t = .ok t' := by
  induction path generalizing t with
  | nil => exact ⟨t, rfl⟩
  | cons v path ih =>
    obtain ⟨n, depth, a, es⟩ := t
    obtain ⟨es', hes'⟩ :=
      changeChild_eq_ok (ih fun w hw => h w (List.mem_cons_of_mem v hw)) depth v es
    refine ⟨.node n depth a es', ?_⟩
    rw [grow, (h v List.mem_cons_self).key]
    show (changeChild (grow path) depth v es >>= _) = _
    rw [hes']
    rfl

theorem ofPaths_of_texts {paths : List Path} (h : ∀ path ∈ paths, ∀ v ∈ path, v.IsText) :
    ∃ t : Tree α, ofPaths paths = .ok t := by
  unfold ofPaths
  generalize bare (.text "") = t
  induction paths generalizing t with
  | nil => exact ⟨t, rfl⟩
  | cons path paths ih =>
    obtain ⟨t', ht'⟩ := grow_of_texts (h path List.mem_cons_self) t
    obtain ⟨u, hu⟩ := ih (fun p hp => h p (List.mem_cons_of_mem path hp)) t'
    exact ⟨u, by rw [List.foldlM_cons, ht']; exact hu⟩

end Tree

namespace Command

/-- Lines are printed one after the other, each one indented. -/
theorem printBelow_run (lines : List String) (t : Trace) :
    printBelow lines t = (.ok (), { t with printed := t.printed ++ lines.map ("  " ++ ·) }) := by
  have heach (t : Trace) :
      ∃ us, Session.forEach (fun line => Session.print ("  " ++ line)) lines t =
        (.ok us, { t with printed := t.printed ++ lines.map ("  " ++ ·) }) := by
    induction lines generalizing t with
    | nil => exact ⟨[], by rw [List.map_nil, List.append_nil]; rfl⟩
    | cons line lines ih =>
      obtain ⟨us, hus⟩ := ih (Session.print ("  " ++ line) t).2
      refine ⟨() :: us, (Session.bind_run_ok (Session.print_run _ t)).trans
        ((Session.bind_run_ok hus).trans ?_)⟩
      simp [Session.print, Session.pure]
  obtain ⟨us, hus⟩ := heach t
  exact Session.bind_run_ok hus

theorem printPaths_run {defaults : Config} {paths : List Path} {names : List String}
    (h : paths.mapM (Path.format defaults.separator) = .ok names) (t : Trace) :
    printPaths defaults paths t =
      (.ok (), { t with printed := t.printed ++ names.map ("  " ++ ·) }) := by
  have hnamed : Session.ofFault (paths.mapM (Path.format defaults.separator)) t =
      (.ok names, t) := by
    rw [h]
    rfl
  exact (Session.bind_run_ok hnamed).trans (printBelow_run names t)

/-! ## Inspecting a document -/

/-- An operation that left with the status for errors. -/
def Leaves {α : Type} (outcome : Except Failure α) : Prop :=
  outcome = .error (.raised .systemExit [.int 1])

section Inspecting

variable (defaults : Config) {s : Surroundings} {target text : String} (asTree : Bool)

theorem inspectDocument_of_load_error (hfile : s.readText target = .ok text) {f : Failure}
    (h : ∀ t, (Document.load text t).1 = .error f) (t : Trace) :
    (inspectDocument defaults s target asTree t).1 = .error f := by
  have hread : Session.ofExcept (s.readText target) t = (.ok text, t) := by
    rw [hfile]
    rfl
  have hload := h t
  rw [inspectDocument, Session.bind_run_ok hread]
  match hrun : Document.load text t with
  | (.ok d, t') =>
    rw [hrun] at hload
    cases hload
  | (.error g, t') =>
    rw [hrun] at hload
    cases hload
    rw [Session.bind_run_error hrun]

/-- What an inspection does once the document was loaded. -/
theorem inspectDocument_of_load (hfile : s.readText target = .ok text) {d : Document Value}
    (h : ∀ t, (Document.load text t).1 = .ok d) (t : Trace) :
    inspectDocument defaults s target asTree t =
      (do
        let paths ← Expansion.paths defaults d.title (d.declared.map .declared)
        Session.print (heading d.title.label d.axes.length paths.length)
        if asTree then
          let t : Tree Unit ← Session.ofFault (Tree.ofPaths paths)
          printTree t
        else printPaths defaults paths : Session Unit) t := by
  have hread : Session.ofExcept (s.readText target) t = (.ok text, t) := by
    rw [hfile]
    rfl
  have hload : Document.load text t = (.ok d, t) :=
    Document.load_steady (Prod.ext (h t) rfl) t
  rw [inspectDocument, Session.bind_run_ok hread, Session.bind_run_ok hload]

/-- An inspection prints a line on the document and, below it, the names of the paths or their
outline. -/
theorem inspectDocument_lists (hfile : s.readText target = .ok text) {d : Document Value}
    (hd : d.Labelled) (h : ∀ t, (Document.load text t).1 = .ok d)
    (hdescribed : d.Described defaults) {paths : List Path}
    (hpaths : paths = (Expansion.combine d.declared [d.title] []).map (·.1)) (t : Trace) :
    ∃ (names : List String) (tree : Tree Unit),
      paths.mapM (Path.format defaults.separator) = .ok names ∧ Tree.ofPaths paths = .ok tree ∧
      inspectDocument defaults s target asTree t = (.ok (), { t with
        printed := t.printed ++ heading d.title.label d.axes.length paths.length ::
          (if asTree then (tree.outline Tree.defaultIndent).map Value.label else names).map
            ("  " ++ ·) }) := by
  have htexts : ∀ path ∈ paths, ∀ v ∈ path, v.IsText := by
    rw [hpaths]
    intro path hpath
    obtain ⟨x, hx, rfl⟩ := List.mem_map.mp hpath
    exact Expansion.isText_of_mem_combine (by simpa using hd.title) hd.declared x hx
  obtain ⟨names, hnames⟩ := exists_mapM_eq_ok fun path hpath =>
    Path.format_of_texts (htexts path hpath) defaults.separator
  obtain ⟨tree, htree⟩ := Tree.ofPaths_of_texts (α := Unit) htexts
  refine ⟨names, tree, hnames, htree, ?_⟩
  rw [inspectDocument_of_load defaults asTree hfile h t,
    Session.bind_run_ok (Expansion.paths_of_described hdescribed t), ← hpaths,
    Session.bind_run_ok (Session.print_run _ t)]
  cases asTree with
  | true =>
    rw [if_pos rfl, if_pos rfl, Session.bind_run_ok (a := tree) (by rw [htree]; rfl), printTree,
      printBelow_run]
    simp [Session.print]
  | false =>
    rw [if_neg Bool.false_ne_true, if_neg Bool.false_ne_true, printPaths_run hnames]
    simp [Session.print]

theorem inspectDocument_of_described (hfile : s.readText target = .ok text) {d : Document Value}
    (hd : d.Labelled) (h : ∀ t, (Document.load text t).1 = .ok d) (hdescribed : d.Described defaults)
    (t : Trace) : (inspectDocument defaults s target asTree t).1 = .ok () := by
  obtain ⟨names, tree, -, -, hrun⟩ :=
    inspectDocument_lists defaults asTree hfile hd h hdescribed rfl t
  rw [hrun]

theorem inspectDocument_of_not_described (hfile : s.readText target = .ok text)
    {d : Document Value} (hd : d.Labelled) (h : ∀ t, (Document.load text t).1 = .ok d)
    (hconfig : defaults.maxCases = none) (hdescribed : ¬ d.Described defaults) (t : Trace) :
    Malformed (inspectDocument defaults s target asTree t).1 := by
  obtain ⟨e, he⟩ := Expansion.paths_of_not_described hd hconfig hdescribed t
  refine ⟨e, ?_⟩
  rw [inspectDocument_of_load defaults asTree hfile h t]
  match hpaths : Expansion.paths defaults d.title (d.declared.map .declared) t with
  | (.ok paths, t'') =>
    rw [hpaths] at he
    cases he
  | (.error f, t'') =>
    rw [hpaths] at he
    cases he
    rw [Session.bind_run_error hpaths]

end Inspecting

/-! ## Reporting -/

section Reporting

variable {α : Type} {target : String}

/-- A malformed scenario is reported with the status for errors. -/
theorem reportFailure_specification (e : SpecificationError) (t : Trace) :
    Leaves (reportFailure target (.specification e) t : Except Failure α × Trace).1 := rfl

/-- What has no report of its own passes on. -/
theorem reportFailure_of_other {f : Failure} (hmissing : f.isA .missingFile = false)
    (himporting : f.isA .importing = false) (hspecification : f.isA .specification = false)
    (t : Trace) : (reportFailure target f t : Except Failure α × Trace) = (.error f, t) := by
  rw [reportFailure, hmissing, himporting, hspecification]
  rfl

/-- The failures that loading ends with, apart from malformed scenarios, have no report. -/
theorem reportFailure_fault (e : Fault) (t : Trace) :
    (reportFailure target (.fault e) t : Except Failure α × Trace) = (.error (.fault e), t) := by
  refine reportFailure_of_other ?_ ?_ ?_ t <;> cases e <;> rfl

theorem reportFailure_breakdown (why : Yaml.Breakdown) (message : String) (t : Trace) :
    (reportFailure target (.other why.kind message) t : Except Failure α × Trace) =
      (.error (.other why.kind message), t) := by
  refine reportFailure_of_other ?_ ?_ ?_ t <;> cases why <;> rfl

end Reporting

section Guarding

variable {α : Type} (target : String) {x : Session α} {t : Trace}

theorem guarded_run_ok {a : α} {t' : Trace} (h : x t = (.ok a, t')) :
    guarded target x t = (.ok a, t') := by
  rw [guarded, Session.bind_run_ok (Session.attempt_run h)]
  rfl

theorem guarded_of_ok {a : α} (h : (x t).1 = .ok a) : (guarded target x t).1 = .ok a := by
  rw [guarded_run_ok target (Prod.ext h rfl)]

theorem guarded_run_error {f : Failure} {t' : Trace} (h : x t = (.error f, t')) :
    guarded target x t = reportFailure target f t' :=
  Session.bind_run_ok (Session.attempt_run h)

theorem guarded_of_error {f : Failure} (h : (x t).1 = .error f) :
    ∃ t', guarded target x t = reportFailure target f t' :=
  ⟨(x t).2, guarded_run_error target (Prod.ext h rfl)⟩

theorem guarded_of_malformed (h : Malformed (x t).1) : Leaves (guarded target x t).1 := by
  obtain ⟨e, he⟩ := h
  obtain ⟨t', ht'⟩ := guarded_of_error target he
  rw [ht']
  exact reportFailure_specification e t'

end Guarding

/-- A target with the ending of documents is inspected as one. -/
theorem inspect_eq {defaults : Config} {s : Surroundings} {target : String} {asTree : Bool}
    (hending : documentEndings.contains (Target.ending target) = true) (t : Trace) :
    inspect defaults s target asTree t =
      guarded target (inspectDocument defaults s target asTree)
        (Session.log Log.info logger ("Inspecting scenarios from: " ++ target) t).2 := by
  rw [inspect, if_pos hending, Session.bind_run_ok (Session.log_run _ _ _ t)]

/-! ## Agreement -/

/-- A failure of loading that has no report of its own ends both the inspection and the
expansion. -/
theorem inspect_of_escape {s : Surroundings} {target text : String} (compute check : Step)
    (hfile : s.readText target = .ok text) {f : Failure}
    (h : ∀ t, (Document.load text t).1 = .error f)
    (hpass : ∀ t, (reportFailure target f t : Except Failure Unit × Trace) = (.error f, t))
    (asTree : Bool) (t t' : Trace) :
    (guarded target (inspectDocument {} s target asTree) t).1 = .error f ∧
      (Expansion.expandText text compute check t').1 = .error f := by
  have hdocument := inspectDocument_of_load_error {} asTree hfile h t
  obtain ⟨t₂, ht₂⟩ := guarded_of_error target hdocument
  exact ⟨by rw [ht₂, hpass], Expansion.expandText_of_load_error compute check h t'⟩

/--
Inspecting a document under the default settings beside expanding its scenario with steps that can
be called. The inspection ends without the status for errors just when the expansion finds no
malformed scenario, unless the document keeps the rules on its title and variables but not those on
the name of the result, which only the expansion checks. So an inspection never refuses what the
expansion accepts. What else keeps a document from being loaded ends both: the inspection then does
not leave with the status for errors but ends with that failure, though the program, which has no
answer to it, leaves with the same status.
-/
theorem inspect_agrees_iff {s : Surroundings} {target text : String} {compute check : Step}
    (hfile : s.readText target = .ok text)
    (hending : documentEndings.contains (Target.ending target) = true)
    (hcompute : compute.isCallable = true) (hcheck : check.isCallable = true) (asTree : Bool)
    (t t' : Trace) :
    ((¬ Leaves (inspect {} s target asTree t).1 ↔
        ¬ Malformed (Expansion.expandText text compute check t').1) ↔
      ∀ d, (Document.load text t').1 = .ok d → d.Described {} → d.ResultFree) ∧
    (Leaves (inspect {} s target asTree t).1 →
      Malformed (Expansion.expandText text compute check t').1) ∧
    (∀ f, (Document.load text t').1 = .error f → (∀ e, f ≠ .specification e) →
      (inspect {} s target asTree t).1 = .error f ∧
        (Expansion.expandText text compute check t').1 = .error f) := by
  obtain ⟨outcome, hload⟩ := Document.load_ends text
  rw [inspect_eq hending, hload.outcome t']
  generalize (Session.log Log.info logger ("Inspecting scenarios from: " ++ target) t).2 = t₁
  -- Both sides load the document first, so the cases are the ways in which that ends.
  cases hload with
  | read hd h =>
    rename_i d
    have hexpand := Expansion.expandText_of_load hd h hcompute hcheck t'
    have hagree : (∀ d', (.ok d : Except Failure (Document Value)) = .ok d' → d'.Described {} →
        d'.ResultFree) ↔ (d.Described {} → d.ResultFree) :=
      ⟨fun hd' => hd' d rfl, fun hd' _ heq => Except.ok.inj heq ▸ hd'⟩
    rw [hexpand, hagree]
    by_cases hdescribed : d.Described {}
    · have hdocument := inspectDocument_of_described {} asTree hfile hd h hdescribed t₁
      have hstays : ¬ Leaves (guarded target (inspectDocument {} s target asTree) t₁).1 := by
        rw [guarded_of_ok target hdocument, Leaves]
        exact nofun
      exact ⟨by simp [hstays, hdescribed], fun hleaves => absurd hleaves hstays, nofun⟩
    · have hdocument := inspectDocument_of_not_described {} asTree hfile hd h rfl
        hdescribed t₁
      have hleaves := guarded_of_malformed target hdocument
      exact ⟨by simp [hleaves, hdescribed], fun _ hkept => hdescribed hkept.1, nofun⟩
  | refused e h =>
    have hexpand := Expansion.expandText_of_load_error compute check h t'
    have hdocument := inspectDocument_of_load_error {} asTree hfile h t₁
    have hleaves := guarded_of_malformed target ⟨e, hdocument⟩
    refine ⟨iff_of_true ?_ nofun, fun _ => ⟨e, hexpand⟩, ?_⟩
    · exact iff_of_false (not_not_intro hleaves) (not_not_intro ⟨e, hexpand⟩)
    · intro f hf hother
      exact absurd (Except.error.inj hf).symm (hother e)
  | broken why message h =>
    obtain ⟨hinspect, hexpand⟩ := inspect_of_escape compute check hfile h
      (reportFailure_breakdown why message) asTree t₁ t'
    rw [hinspect, hexpand]
    refine ⟨iff_of_true (iff_of_true nofun nofun) nofun, nofun, fun f hf _ => ?_⟩
    cases hf
    exact ⟨rfl, rfl⟩
  | fault e h =>
    obtain ⟨hinspect, hexpand⟩ := inspect_of_escape compute check hfile h
      (reportFailure_fault e) asTree t₁ t'
    rw [hinspect, hexpand]
    refine ⟨iff_of_true (iff_of_true nofun nofun) nofun, nofun, fun f hf _ => ?_⟩
    cases hf
    exact ⟨rfl, rfl⟩

/-- Surroundings in which every path leads to a file of one text. -/
def textEverywhere (text : String) : Surroundings where
  look _ := .file (.text text)
  modules := []

theorem readText_textEverywhere {text path : String} (hpath : path.toList.contains '\x00' = false)
    (htext : Surroundings.unixLines text.toList = text.toList) :
    (textEverywhere text).readText path = .ok text := by
  rw [Surroundings.readText, if_neg (by rw [hpath]; exact Bool.false_ne_true)]
  show Except.ok (String.ofList (Surroundings.unixLines text.toList)) = _
  rw [htext, String.ofList_toList]

/-- Whether an operation ended with a malformed scenario. -/
def isMalformed {α : Type} : Except Failure α → Bool
  | .error (.specification _) => true
  | _ => false

theorem isMalformed_iff {α : Type} {outcome : Except Failure α} :
    isMalformed outcome = true ↔ Malformed outcome := by
  unfold isMalformed
  split
  · exact iff_of_true rfl ⟨_, rfl⟩
  · rename_i hne
    exact iff_of_false Bool.false_ne_true fun ⟨e, he⟩ => hne e he

theorem not_leaves_of_isOk {α : Type} {outcome : Except Failure α} (h : outcome.isOk = true) :
    ¬ Leaves outcome := by
  rintro rfl
  cases h

/-- A document with one variable of one candidate, and no name for the result. -/
def plainText : String :=
  "title: t\nvariables:\n  - \x7bname: a, values: [1]\x7d\n"

/-- Inspecting and expanding both accept the plain document, so it keeps the rules on the name of
the result. -/
theorem inspect_agrees_plainText :
    (textEverywhere plainText).readText "s.yaml" = .ok plainText ∧
      ∀ d, (Document.load plainText default).1 = .ok d → d.Described {} → d.ResultFree := by
  have hfile : (textEverywhere plainText).readText "s.yaml" = .ok plainText :=
    readText_textEverywhere (by decide +kernel) (by decide +kernel)
  have hinspect : ¬ Leaves (inspect {} (textEverywhere plainText) "s.yaml" false default).1 :=
    not_leaves_of_isOk (by decide +kernel)
  have hexpand : ¬ Malformed
      (Expansion.expandText plainText (.constant .null) (.constant .null) default).1 := by
    rw [← isMalformed_iff]
    decide +kernel
  exact ⟨hfile, (inspect_agrees_iff hfile (by decide +kernel) rfl rfl false default default).1.mp
    (iff_of_true hinspect hexpand)⟩

/-- A document whose name for the result is no identifier. -/
def strayResultText : String :=
  "title: t\nresult_name: not an identifier\nvariables:\n  - \x7bname: a, values: [1]\x7d\n"

/-- Inspecting that document ends well, although its scenario is malformed. -/
theorem inspect_strayResultText :
    (textEverywhere strayResultText).readText "s.yaml" = .ok strayResultText ∧
      ¬ (¬ Leaves (inspect {} (textEverywhere strayResultText) "s.yaml" false default).1 ↔
        ¬ Malformed
          (Expansion.expandText strayResultText (.constant .null) (.constant .null) default).1) := by
  have hinspect : ¬ Leaves (inspect {} (textEverywhere strayResultText) "s.yaml" false default).1 :=
    not_leaves_of_isOk (by decide +kernel)
  have hexpand : Malformed
      (Expansion.expandText strayResultText (.constant .null) (.constant .null) default).1 := by
    rw [← isMalformed_iff]
    decide +kernel
  exact ⟨readText_textEverywhere (by decide +kernel) (by decide +kernel),
    fun hagree => hagree.mp hinspect hexpand⟩

end Command

end CaseGrid
