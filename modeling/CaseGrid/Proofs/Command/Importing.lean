import CaseGrid.Proofs.Command.Reports

/-
  How commands report a module that cannot be loaded. Finding a target and executing it are one
  operation, and its failure is reported by its kind alone: a missing file as a target that is not
  there, a failure of importing as a target that cannot be imported, a malformed scenario as such.
  Any other failure passes on without a report. So what a module fails with while it is executed
  decides whether the report is the right one. A report that shows the text of a failure breaks off
  after its first line where that text cannot be formed.

  Proved: which lines of reports a command prints, from what its work fails with
  (`printed_run_iff`, `printed_inspect_iff`), that only loading a module, a file that is not there
  and a step that ends the run give such failures (`quiet_work_of_target`, `confined_inspectSuite`,
  `confined_inspectDocument`), and from these when either command reports a target that is there in
  the one way or the other (`reports_of_exists`).
-/

namespace CaseGrid

open Session

namespace Command

/-! ## Where failures come from -/

/-- A step of a case of the suite of a target ends the run with a failure. -/
def Halted (defaults : Config) (s : Surroundings) (target : String) (f : Failure) : Prop :=
  ∃ suite cases u u' v v', suiteOf s target u = (.ok suite, u') ∧
    suite.cases defaults v = (.ok cases, v') ∧ ∃ c ∈ cases, c.Interrupted f

section Failures

variable (defaults : Config) (s : Surroundings) (target : String)

/-- Only a step that fails ends the run of a case, and then the whole run. -/
theorem quiet_all_of_texts {cases : List Case}
    (htexts : ∀ c ∈ cases, ∀ v ∈ c.path, ∃ ps, v.points? = some ps) :
    Quiet (fun f => ∃ c ∈ cases, c.Interrupted f) (Run.all defaults cases) := by
  refine (confined_forEach fun c hc => ?_).bind fun results => ?_
  · refine confined_of_same (Run.quiet_one defaults c).printed fun t f hf => ⟨c, hc, ?_⟩
    obtain ⟨ending, hending, hstops⟩ := Run.one_settled defaults (htexts c hc)
    refine (hstops f).mp ?_
    rw [← (hending t).1, hf]
    rfl
  · exact (confined_log _ _ _).bind fun _ => confined_pure _

theorem quiet_run_of_suite (select : List String) (suite : Suite) :
    Quiet (fun f => f.IsInner ∨ ∃ cases v v', suite.cases defaults v = (.ok cases, v') ∧
      ∃ c ∈ cases, c.Interrupted f) (suite.run defaults select) := by
  refine ((suite.quiet_cases defaults).mono (fun _ => id) fun f => .inl).bind_of_ok ?_
  intro cases v v' hcases
  have htexts := Suite.texts_of_mem_cases hcases
  split
  · refine (quiet_all_of_texts defaults htexts).mono (fun _ => id) fun f hf => ?_
    exact .inr ⟨cases, v, v', hcases, hf⟩
  · refine ((Selection.quiet_select _ _ _).mono (fun _ => id) fun f => .inl).bind_of_ok ?_
    intro kept u u' hselect
    obtain ⟨parsed, u₁, -, hlog⟩ := Session.bind_eq_ok hselect
    obtain ⟨-, u₂, -, hend⟩ := Session.bind_eq_ok hlog
    cases hend
    have hkept : ∀ c ∈ Selection.keep parsed cases, c ∈ cases := fun c =>
      List.mem_of_mem_filter
    refine (quiet_all_of_texts defaults fun c hc => htexts c (hkept c hc)).mono (fun _ => id) ?_
    rintro f ⟨c, hc, hf⟩
    exact .inr ⟨cases, v, v', hcases, c, hkept c hc, hf⟩

/-- The work of a run fails as loading the target does, because of its scenarios, or because a step
ends it. -/
theorem quiet_work_of_target (select : List String) :
    Quiet (fun f => s.load target = .error f ∨ f.IsInner ∨ Halted defaults s target f)
      (work defaults s target select) := by
  refine ((quiet_suiteOf s target).mono (fun _ => id) ?_).bind_of_ok ?_
  · rintro f (hload | hinner)
    · exact .inl hload
    · exact .inr (.inl hinner)
  · intro suite u u' hsuite
    refine (quiet_run_of_suite defaults select suite).mono (fun _ => id) ?_
    rintro f (hinner | ⟨cases, v, v', hcases, hf⟩)
    · exact .inr (.inl hinner)
    · exact .inr (.inr ⟨suite, cases, u, u', v, v', hsuite, hcases, hf⟩)

theorem isInner_conflictFailure (c : Case) (conflict : Tree.Conflict) :
    (Tree.conflictFailure defaults c conflict).IsInner := by
  cases conflict with
  | fault e => exact Failure.isInner_fault e
  | beyond | repeated =>
    simp only [Tree.conflictFailure]
    split
    · exact Failure.isInner_fault _
    · split
      · exact Failure.isInner_fault _
      · exact Failure.isInner_specification _

theorem isInner_of_ofCases {cases : List Case} {f : Failure}
    (h : Tree.ofCases defaults cases = .error f) : f.IsInner := by
  rw [Tree.ofCases] at h
  generalize Tree.bare (.text "") = t at h
  induction cases generalizing t with
  | nil => cases h
  | cons c cases ih =>
    rw [List.foldlM_cons] at h
    rcases bind_eq_error_iff.mp h with hinsert | ⟨t', -, hrest⟩
    · obtain ⟨conflict, -, rfl⟩ := mapError_eq_error_iff.mp hinsert
      exact isInner_conflictFailure defaults c conflict
    · exact ih t' hrest

theorem confined_inspectScenario (asTree : Bool) (x : Scenario) (cases : List Case) :
    Confined Unreported Failure.IsInner (inspectScenario defaults asTree x cases) := by
  refine (confined_print (unreported_heading _ _ _)).bind fun _ => ?_
  split
  · refine (confined_ofExcept fun f => isInner_of_ofCases defaults).bind fun t => ?_
    exact confined_printBelow _
  · exact confined_printPaths defaults Failure.isInner_fault _

theorem confined_inspectSuite (asTree : Bool) :
    Confined Unreported (fun f => s.load target = .error f ∨ f.IsInner)
      (inspectSuite defaults s target asTree) := by
  refine (quiet_suiteOf s target).confined.bind fun suite => ?_
  refine Confined.mono ?_ (fun _ => id) fun f => .inr
  split
  · exact confined_print (unreported_noScenarios target)
  · refine (suite.quiet_expand defaults).confined.bind fun groups => ?_
    refine (confined_forEach fun g _ => confined_inspectScenario defaults asTree g.1 g.2).bind ?_
    exact fun _ => confined_pure ()

theorem confined_inspectDocument (asTree : Bool) :
    Confined Unreported (fun f => s.readText target = .error f ∨ f.IsInner)
      (inspectDocument defaults s target asTree) := by
  refine (confined_ofExcept fun f hf => .inl hf).bind fun text => ?_
  refine Confined.mono ?_ (fun _ => id) fun f => .inr
  refine (Document.quiet_load text).confined.bind fun d => ?_
  refine (Expansion.quiet_paths _ _ _).confined.bind fun paths => ?_
  refine (confined_print (unreported_heading _ _ _)).bind fun _ => ?_
  split
  · exact (confined_ofFault _ Failure.isInner_fault).bind fun t => confined_printBelow _
  · exact confined_printPaths defaults Failure.isInner_fault _

end Failures

/-- A run prints the report of what its work fails with, and no other. -/
theorem printed_run_iff {defaults : Config} {s : Surroundings} {target line : String}
    {select : List String} (hline : ¬ Unreported line) (t : Trace) :
    Printed line (run defaults s target select) t ↔
      ∃ f, (work defaults s target select
        (Session.log Log.info logger ("Running scenarios from: " ++ target) t).2).1 = .error f ∧
        line ∈ report target f := by
  have hwork : Confined Unreported Failure.IsAny (work defaults s target select) :=
    (quiet_work defaults s target select).confined
  rw [run, printed_bind_of_ok (Session.log_run _ _ _ t) rfl,
    printed_bind_of_ok (Session.now_run _) rfl, ← printed_guarded_iff hwork hline]
  refine printed_bind_iff (confined_guarded target hwork)
    (?_ : ∀ summary, Confined Unreported Failure.IsAny _) hline _
  intro summary
  refine (confined_printResults defaults (fun _ => trivial) summary).bind fun _ => ?_
  refine confined_now.bind fun stop => ?_
  refine (confined_print (unreported_totals summary _)).bind fun _ => ?_
  split
  · exact confined_fail trivial
  · exact confined_pure ()

/-- An inspection prints the report of what it fails with, and no other. -/
theorem printed_inspect_iff {defaults : Config} {s : Surroundings} {target line : String}
    {asTree : Bool} (hline : ¬ Unreported line) (t : Trace) :
    Printed line (inspect defaults s target asTree) t ↔
      ∃ f, ((if documentEndings.contains (Target.ending target) then
          inspectDocument defaults s target asTree else inspectSuite defaults s target asTree)
        (Session.log Log.info logger ("Inspecting scenarios from: " ++ target) t).2).1 = .error f ∧
        line ∈ report target f := by
  rw [inspect, printed_bind_of_ok (Session.log_run _ _ _ t) rfl]
  refine printed_guarded_iff (?_ : Confined Unreported Failure.IsAny _) hline _
  split
  · exact (confined_inspectDocument defaults s target asTree).mono (fun _ => id) fun _ _ => trivial
  · exact (confined_inspectSuite defaults s target asTree).mono (fun _ => id) fun _ _ => trivial

end Command

/-! ## Targets that are there -/

namespace Command.Surroundings

/-- A target is there: a file with the ending for modules, or a dotted name whose beginnings are all
names of modules. -/
inductive Exists (s : Surroundings) (target : String) : Prop where
  | file {content : Content} (hending : Target.ending target = ".py")
    (hname : target.toList.contains '\x00' = false) (hfile : s.look target = .file content)
  | module (hending : Target.ending target ≠ ".py") (hpoint : Text.begins "." target = false)
    (hne : target ≠ "") (hmodules : ∀ name ∈ dottedPrefixes target, s.hasModule name = true)

/-- Executing a target fails: its file does, or a module whose name it begins with. -/
inductive Raises (s : Surroundings) (target : String) (f : Failure) : Prop where
  | file {ds : Definitions} (hfile : s.look target = .file (.definitions ds))
    (hf : Definition.firstFailure? ds = some f)
  | module {m : String × Definitions} (hname : m.1 ∈ dottedPrefixes target) (hm : m ∈ s.modules)
    (hf : Definition.firstFailure? m.2 = some f)

theorem firstFailure_of_load {ds : Definitions} {f : Failure} (h : ds.load = .error f) :
    Definition.firstFailure? ds = some f := by
  rw [Definitions.load] at h
  split at h
  · cases h
    assumption
  · cases h

theorem exists_of_loadEach {s : Surroundings} {names : List String} {loaded : Definitions}
    {f : Failure} (hmodules : ∀ name ∈ names, s.hasModule name = true)
    (h : s.loadEach loaded names = .error f) :
    ∃ m ∈ s.modules, m.1 ∈ names ∧ Definition.firstFailure? m.2 = some f := by
  induction names generalizing loaded with
  | nil => cases h
  | cons name names ih =>
    have hrest : ∀ {ds}, s.loadEach ds names = .error f →
        ∃ m ∈ s.modules, m.1 ∈ name :: names ∧ Definition.firstFailure? m.2 = some f := by
      intro ds hds
      obtain ⟨m, hm, hname, hf⟩ := ih (fun n hn => hmodules n (.tail _ hn)) hds
      exact ⟨m, hm, .tail _ hname, hf⟩
    rw [loadEach, if_pos (hmodules name List.mem_cons_self)] at h
    dsimp only at h
    split at h
    · rename_i m hfound
      rcases bind_eq_error_iff.mp h with hload | ⟨ds, -, hds⟩
      · have hm := List.mem_of_find?_eq_some hfound
        have hname : m.1 = name := by simpa using List.find?_some hfound
        exact ⟨m, List.mem_reverse.mp hm, by simp [hname], firstFailure_of_load hload⟩
      · exact hrest hds
    · exact hrest h

/-- Loading a target that is there fails with what executing it fails with. -/
theorem Exists.raises {s : Surroundings} {target : String} (h : s.Exists target) {f : Failure}
    (hload : s.load target = .error f) : s.Raises target f := by
  cases h with
  | @file content hending hname hfile =>
    rw [load, if_pos hending, map_eq_error_iff, loadFile, hname, if_neg Bool.false_ne_true,
      hfile] at hload
    cases content with
    | text _ => cases hload
    | definitions ds => exact .file hfile (firstFailure_of_load hload)
  | module hending hpoint hne hmodules =>
    rw [load, if_neg hending, map_eq_error_iff, loadModule, hpoint, if_neg Bool.false_ne_true,
      if_neg hne] at hload
    obtain ⟨m, hm, hname, hf⟩ := exists_of_loadEach hmodules hload
    exact .module hname hm hf

/-- Reading a file never fails with a failure of importing, and with a missing file only where there
is nothing. -/
theorem kind_of_readText {s : Surroundings} {path : String} {f : Failure}
    (h : s.readText path = .error f) : f.isA .importing = false ∧
      (f.isA .missingFile = true ↔
        path.toList.contains '\x00' = false ∧ s.look path = .missing) := by
  cases hname : path.toList.contains '\x00' with
  | true =>
    rw [readText, if_pos hname] at h
    cases h
    refine ⟨rfl, iff_of_false Bool.false_ne_true ?_⟩
    rintro ⟨⟨⟩, -⟩
  | false =>
    rw [readText, hname, if_neg Bool.false_ne_true] at h
    cases hlook : s.look path with
    | missing =>
      rw [hlook] at h
      cases h
      exact ⟨rfl, iff_of_true rfl ⟨rfl, rfl⟩⟩
    | blocked | unnameable | directory =>
      rw [hlook] at h
      cases h
      refine ⟨rfl, iff_of_false Bool.false_ne_true ?_⟩
      rintro ⟨-, ⟨⟩⟩
    | file content =>
      rw [hlook] at h
      cases content <;> cases h

end Command.Surroundings

namespace Command

/-- A command reported something in a line and left with the status for errors. -/
def Reported (line : String) (x : Session Unit) (t : Trace) : Prop :=
  Leaves (x t).1 ∧ Printed line x t

/-- A failure passed a command by, which printed nothing. -/
def PassedOn (f : Failure) (x : Session Unit) (t : Trace) : Prop :=
  (x t).1 = .error f ∧ (x t).2.printed = t.printed

section Loading

variable {defaults : Config} {s : Surroundings} {target : String} {f : Failure} {x : Session Unit}
  {t : Trace}

/-- A command whose work ended with a failure prints its report. -/
structure Ended (target : String) (f : Failure) (x : Session Unit) (t : Trace) : Prop where
  outcome : (x t).1 = .error (afterReport f)
  printed : (x t).2.printed = t.printed ++ report target f

theorem Ended.reported_iff (h : Ended target f x t) {line : String} :
    Reported line x t ↔
      afterReport f = .raised .systemExit [.int 1] ∧ line ∈ report target f := by
  rw [Reported, Leaves, printed_iff_of_eq h.printed, h.outcome, Except.error.injEq]

theorem Ended.passedOn (h : Ended target f x t) (hinner : f.IsInner)
    (hspecification : f.isA .specification = false) : PassedOn f x t := by
  constructor
  · rw [h.outcome, afterReport, hinner.missingFile, hinner.importing, hspecification]
    rfl
  · rw [h.printed, report, hinner.missingFile, hinner.importing, hspecification]
    exact List.append_nil _

theorem Ended.of_eq {u : Trace} (hsame : u.printed = t.printed)
    (h : x t = (.error (afterReport f), { u with printed := u.printed ++ report target f })) :
    Ended target f x t :=
  ⟨congrArg Prod.fst h, by rw [h, hsame]⟩

theorem run_ended (h : s.load target = .error f) (select : List String) (t : Trace) :
    Ended target f (run defaults s target select) t := by
  have hwork (u : Trace) : work defaults s target select u = (.error f, u) :=
    Session.bind_run_error (suiteOf_of_load_error h u)
  refine .of_eq (u := (Session.log Log.info logger ("Running scenarios from: " ++ target) t).2) rfl ?_
  rw [run, Session.bind_run_ok (Session.log_run _ _ _ t), Session.bind_run_ok (Session.now_run _)]
  refine Session.bind_run_error ?_
  exact (guarded_run_error target (hwork _)).trans (reportFailure_run target f _)

theorem inspect_ended (h : s.load target = .error f)
    (hending : documentEndings.contains (Target.ending target) = false) (asTree : Bool)
    (t : Trace) : Ended target f (inspect defaults s target asTree) t := by
  have hsuite (u : Trace) : inspectSuite defaults s target asTree u = (.error f, u) :=
    Session.bind_run_error (suiteOf_of_load_error h u)
  refine .of_eq
    (u := (Session.log Log.info logger ("Inspecting scenarios from: " ++ target) t).2) rfl ?_
  rw [inspect, Session.bind_run_ok (Session.log_run _ _ _ t), hending, if_neg Bool.false_ne_true]
  exact (guarded_run_error target (hsuite _)).trans (reportFailure_run target f _)

theorem Ended.cannotImport_iff (h : Ended target f x t) :
    Reported (cannotImport target) x t ↔
      f.isA .importing = true ∧ f.isA .missingFile = false ∧ Showable f := by
  rw [h.reported_iff, cannotImport_mem_report, and_comm, and_assoc]
  refine and_congr_right fun himporting => and_congr_right fun hmissing => ?_
  rw [afterReport, himporting, hmissing, ← afterText_eq_iff]
  rfl

theorem Ended.notFound_iff (h : Ended target f x t) :
    Reported (notFound target) x t ↔ f.isA .missingFile = true := by
  rw [h.reported_iff, notFound_mem_report, and_iff_right_iff_imp]
  intro hmissing
  rw [afterReport, if_pos hmissing]

/-- A run takes a missing file for the target, be it one that loading the target fails with or one
that a step asks to stop with. -/
theorem exists_missing_of_run (select : List String) (t : Trace)
    (h : Printed (notFound target) (run defaults s target select) t) :
    ∃ f, f.isA .missingFile = true ∧ (s.load target = .error f ∨ Halted defaults s target f) := by
  obtain ⟨f, hf, hmem⟩ := (printed_run_iff (not_unreported_notFound target) t).mp h
  refine ⟨f, notFound_mem_report.mp hmem, ?_⟩
  rcases (quiet_work_of_target defaults s target select _).2 f hf with hload | hinner | hhalted
  · exact .inl hload
  · exact absurd hmem (notFound_not_mem_of_isInner hinner)
  · exact .inr hhalted

/-- An inspection of a document fails with a missing file only where there is nothing. -/
theorem notFound_document_iff (hending : documentEndings.contains (Target.ending target) = true)
    (asTree : Bool) (t : Trace) :
    Printed (notFound target) (inspect defaults s target asTree) t ↔
      target.toList.contains '\x00' = false ∧ s.look target = .missing := by
  rw [printed_inspect_iff (not_unreported_notFound target), if_pos hending]
  constructor
  · rintro ⟨f, hf, hmem⟩
    rcases (confined_inspectDocument defaults s target asTree _).2 f hf with hread | hinner
    · exact (Surroundings.kind_of_readText hread).2.mp (notFound_mem_report.mp hmem)
    · exact absurd hmem (notFound_not_mem_of_isInner hinner)
  · rintro ⟨hname, hlook⟩
    have hread : s.readText target =
        .error (Surroundings.systemFailure 2 "No such file or directory" target) := by
      rw [Surroundings.readText, hname, if_neg Bool.false_ne_true, hlook]
    have hmissing := (Surroundings.kind_of_readText hread).2.mpr ⟨hname, hlook⟩
    refine ⟨_, ?_, notFound_mem_report.mpr hmissing⟩
    rw [inspectDocument, hread]
    rfl

/-- An inspection of a document knows nothing of imports. -/
theorem not_cannotImport_document
    (hending : documentEndings.contains (Target.ending target) = true) (asTree : Bool) (t : Trace) :
    ¬ Printed (cannotImport target) (inspect defaults s target asTree) t := by
  rw [printed_inspect_iff (not_unreported_cannotImport target), if_pos hending]
  rintro ⟨f, hf, hmem⟩
  rcases (confined_inspectDocument defaults s target asTree _).2 f hf with hread | hinner
  · obtain ⟨himporting, -⟩ := cannotImport_mem_report.mp hmem
    rw [(Surroundings.kind_of_readText hread).1] at himporting
    cases himporting
  · exact cannotImport_not_mem_of_isInner hinner hmem

/-- An inspection of a module reports a missing file just if loading the module fails with one. -/
theorem notFound_module_iff (hending : documentEndings.contains (Target.ending target) = false)
    (asTree : Bool) (t : Trace) :
    Printed (notFound target) (inspect defaults s target asTree) t ↔
      ∃ f, s.load target = .error f ∧ f.isA .missingFile = true := by
  rw [printed_inspect_iff (not_unreported_notFound target), hending, if_neg Bool.false_ne_true]
  constructor
  · rintro ⟨f, hf, hmem⟩
    rcases (confined_inspectSuite defaults s target asTree _).2 f hf with hload | hinner
    · exact ⟨f, hload, notFound_mem_report.mp hmem⟩
    · exact absurd hmem (notFound_not_mem_of_isInner hinner)
  · rintro ⟨f, hload, hmissing⟩
    refine ⟨f, ?_, notFound_mem_report.mpr hmissing⟩
    rw [inspectSuite, Session.bind_run_error (suiteOf_of_load_error hload _)]

theorem cannotImport_inspect_iff (h : s.load target = .error f) (asTree : Bool) (t : Trace) :
    Reported (cannotImport target) (inspect defaults s target asTree) t ↔
      (f.isA .importing = true ∧ f.isA .missingFile = false ∧ Showable f) ∧
        documentEndings.contains (Target.ending target) = false := by
  cases hending : documentEndings.contains (Target.ending target) with
  | true =>
    refine iff_of_false ?_ ?_
    · exact fun hreported => not_cannotImport_document hending asTree t hreported.2
    · rintro ⟨-, ⟨⟩⟩
  | false =>
    rw [(inspect_ended h hending asTree t).cannotImport_iff]
    exact (and_iff_left rfl).symm

/--
A target that is there, and what executing it fails with, if it does. Either command reports that it
cannot be imported just if the failure is one of importing and no missing file, and its text can be
shown; an inspection must not take the target for a document either. The run reports that the target
is not there just if the failure is a missing file, and what is neither, nor a malformed scenario,
passes on without a report. Otherwise the target is reported as not there only by a run that a step
ends with a missing file; an inspection does so only if loading the module fails with a missing file
or, for the name of a document, if there is no such file.
-/
theorem reports_of_exists (defaults : Config) (hexists : s.Exists target) :
    (∀ f, s.load target = .error f → s.Raises target f ∧
      (∀ select t, Reported (cannotImport target) (run defaults s target select) t ↔
        f.isA .importing = true ∧ f.isA .missingFile = false ∧ Showable f) ∧
      (∀ asTree t, Reported (cannotImport target) (inspect defaults s target asTree) t ↔
        (f.isA .importing = true ∧ f.isA .missingFile = false ∧ Showable f) ∧
          documentEndings.contains (Target.ending target) = false) ∧
      (∀ select t, Reported (notFound target) (run defaults s target select) t ↔
        f.isA .missingFile = true) ∧
      (f.IsInner → f.isA .specification = false →
        (∀ select t, PassedOn f (run defaults s target select) t) ∧
        (documentEndings.contains (Target.ending target) = false →
          ∀ asTree t, PassedOn f (inspect defaults s target asTree) t))) ∧
    (∀ select t, Printed (notFound target) (run defaults s target select) t →
      ∃ f, f.isA .missingFile = true ∧
        (s.load target = .error f ∧ s.Raises target f ∨ Halted defaults s target f)) ∧
    ∀ asTree t, Printed (notFound target) (inspect defaults s target asTree) t ↔
      if documentEndings.contains (Target.ending target) then
        target.toList.contains '\x00' = false ∧ s.look target = .missing
      else ∃ f, s.load target = .error f ∧ f.isA .missingFile = true := by
  refine ⟨fun f hload => ⟨hexists.raises hload,
    fun select t => (run_ended hload select t).cannotImport_iff, cannotImport_inspect_iff hload,
    fun select t => (run_ended hload select t).notFound_iff, ?_⟩, ?_, ?_⟩
  · intro hinner hspecification
    constructor
    · intro select t
      exact (run_ended hload select t).passedOn hinner hspecification
    · intro hending asTree t
      exact (inspect_ended hload hending asTree t).passedOn hinner hspecification
  · intro select t hprinted
    obtain ⟨f, hmissing, hcause⟩ := exists_missing_of_run select t hprinted
    refine ⟨f, hmissing, hcause.imp_left fun hload => ?_⟩
    exact ⟨hload, hexists.raises hload⟩
  · intro asTree t
    cases hending : documentEndings.contains (Target.ending target) with
    | true => exact notFound_document_iff hending asTree t
    | false => exact notFound_module_iff hending asTree t

end Loading

/-- Surroundings in which there is one file, whose execution fails. -/
def failingFile (f : Failure) : Surroundings where
  look path := if path = "m.py" then .file (.definitions [("x", .failure f)]) else .missing
  modules := []

theorem look_failingFile (f : Failure) :
    (failingFile f).look "m.py" = .file (.definitions [("x", .failure f)]) :=
  rfl

theorem exists_failingFile (f : Failure) : (failingFile f).Exists "m.py" :=
  .file (by decide +kernel) (by decide) (look_failingFile f)

theorem load_failingFile (f : Failure) : (failingFile f).load "m.py" = .error f := rfl

/-- A failure of importing while a file is executed is reported as such by both commands. -/
theorem reported_importError :
    (failingFile (.raised .moduleNotFound [.text "boom"])).Exists "m.py" ∧
      Reported (cannotImport "m.py")
        (run {} (failingFile (.raised .moduleNotFound [.text "boom"])) "m.py" []) default ∧
      Reported (cannotImport "m.py")
        (inspect {} (failingFile (.raised .moduleNotFound [.text "boom"])) "m.py" false)
        default := by
  have hexists := exists_failingFile (.raised .moduleNotFound [.text "boom"])
  obtain ⟨-, hrun, hinspect, -⟩ := (reports_of_exists {} hexists).1 _ (load_failingFile _)
  exact ⟨hexists, (hrun [] default).mpr ⟨rfl, rfl, .inl ⟨_, rfl⟩⟩,
    (hinspect false default).mpr ⟨⟨rfl, rfl, .inl ⟨_, rfl⟩⟩, rfl⟩⟩

/-- An unsuitable value that a file is executed with passes on, and a missing file is taken for the
file itself. -/
theorem not_reported_valueError :
    (∃ f, (failingFile f).Exists "m.py" ∧ (failingFile f).load "m.py" = .error f ∧
      f.isA .ordinary = true ∧ f.isA .specification = false ∧
      (run {} (failingFile f) "m.py" [] default).1 = .error f ∧
      (run {} (failingFile f) "m.py" [] default).2.printed = [] ∧
      (inspect {} (failingFile f) "m.py" false default).1 = .error f ∧
      (inspect {} (failingFile f) "m.py" false default).2.printed = []) ∧
    ∃ f, (failingFile f).Exists "m.py" ∧ (failingFile f).load "m.py" = .error f ∧
      f.isA .ordinary = true ∧ f.isA .specification = false ∧
      (run {} (failingFile f) "m.py" [] default).2.printed =
        ["ERROR: Target not found: m.py"] ∧
      (inspect {} (failingFile f) "m.py" false default).2.printed =
        ["ERROR: Target not found: m.py"] := by
  constructor
  · exact ⟨.raised .valueError [.text "boom"], exists_failingFile _, rfl, rfl, rfl, rfl, rfl, rfl,
      rfl⟩
  · exact ⟨.raised .fileNotFound [.text "boom"], exists_failingFile _, rfl, rfl, rfl, rfl, rfl⟩

end Command

end CaseGrid
