import CaseGrid.Proofs.Command.Listing
import CaseGrid.Proofs.Command.Quiet
import CaseGrid.Proofs.Suite.Rerun
import CaseGrid.Proofs.Text.Table

/-
  Running the cases of a module, and what an inspection of it lists. A run prints a table with one
  row for each case that was selected and, below it, how many cases ended in each way; it leaves
  with the status for errors unless all of them passed. What a row tells of a case is what every run
  of the case ends with, whatever was run before.

  Proved: what the rows are (`exists_rows`), that the line below them counts them
  (`totals_eq`) and that the status follows from them (`ok_iff`), and from these what a whole run
  prints and how it ends, beside what an inspection prints (`run_reports`).
-/

namespace CaseGrid

open Session (Steady)
open CaseGrid.Expansion

theorem Outcome.name_eq_iff {o o' : Outcome} : o.name = o'.name ↔ o = o' := by
  cases o <;> cases o' <;> simp [Outcome.name]

/-! ## Loading a module again -/

namespace Suite

theorem add_again {s s' : Suite} {m : Member} {t t' : Trace} (h : s.add m t = (.ok s', t'))
    (u : Trace) : s.add m u = (.ok s', u) := by
  obtain ⟨title, t₁, htitle, hadd⟩ := Session.bind_eq_ok h
  obtain ⟨hkey, rfl⟩ := Session.ofFault_eq_ok htitle
  rw [add, hkey]
  split at hadd
  · obtain ⟨_, _, -, hfail⟩ := Session.bind_eq_ok hadd
    cases hfail
  · rename_i hnew
    cases hadd
    show (if (s.members.get? title).isSome then _ else _ : Session Suite) u = _
    rw [if_neg hnew]
    rfl

theorem addAll_again {ms : List Member} {s s' : Suite} {t t' : Trace}
    (h : addAll ms s t = (.ok s', t')) (u : Trace) : addAll ms s u = (.ok s', u) := by
  induction ms generalizing s t with
  | nil =>
    cases h
    rfl
  | cons m ms ih =>
    obtain ⟨s₁, t₁, hadd, hrest⟩ := Session.bind_eq_ok h
    exact (Session.bind_run_ok (add_again hadd u)).trans (ih hrest)

theorem config_of_addAll {ms : List Member} {s s' : Suite} {t t' : Trace}
    (h : addAll ms s t = (.ok s', t')) : s'.config = s.config := by
  induction ms generalizing s t with
  | nil =>
    cases h
    rfl
  | cons m ms ih =>
    obtain ⟨s₁, t₁, hadd, hrest⟩ := Session.bind_eq_ok h
    rw [ih hrest, (add_eq_ok hadd).1]

theorem ofModule_steady {config : Option Config} {start : Option String} {moduleName : String}
    {ds : Definitions} {s : Suite} {t t' : Trace}
    (h : ofModule config start moduleName ds t = (.ok s, t')) :
    Steady (ofModule config start moduleName ds) (.ok s) [] := by
  obtain ⟨_, t₁, _, hadd⟩ := Session.bind_eq_ok h
  intro u
  have hlog := Session.log_run Log.debug logger
    ("Found " ++ toString (ds.scenarios start).length ++ " scenario(s) in module " ++ moduleName) u
  have hbind := Session.bind_run_ok (f := fun _ => ofMembers config (ds.scenarios start)) hlog
  have hrun := hbind.trans (addAll_again hadd _)
  have hmodule : ofModule config start moduleName ds u = _ := hrun
  rw [hmodule]
  exact ⟨rfl, (List.append_nil _).symm⟩

end Suite

namespace Command

section SuiteOf

variable {s : Surroundings} {target : String} {suite : Suite} {t t' : Trace}

theorem suiteOf_of_load {name : String} {ds : Definitions} (h : s.load target = .ok (name, ds))
    (t : Trace) :
    suiteOf s target t = Suite.ofModule none (some Definitions.testPrefix) name ds t := by
  rw [suiteOf, h]
  rfl

theorem suiteOf_of_load_error {f : Failure} (h : s.load target = .error f) (t : Trace) :
    suiteOf s target t = (.error f, t) := by
  rw [suiteOf, h]
  rfl

theorem exists_of_suiteOf (h : suiteOf s target t = (.ok suite, t')) :
    ∃ name ds, s.load target = .ok (name, ds) ∧
      Suite.ofModule none (some Definitions.testPrefix) name ds t = (.ok suite, t') := by
  cases hload : s.load target with
  | error f =>
    rw [suiteOf_of_load_error hload] at h
    cases h
  | ok loaded =>
    obtain ⟨name, ds⟩ := loaded
    rw [suiteOf_of_load hload] at h
    exact ⟨name, ds, rfl, h⟩

theorem suiteOf_steady (h : suiteOf s target t = (.ok suite, t')) :
    Steady (suiteOf s target) (.ok suite) [] := by
  obtain ⟨name, ds, hload, hmodule⟩ := exists_of_suiteOf h
  intro u
  rw [suiteOf_of_load hload]
  exact Suite.ofModule_steady hmodule u

/-- A suite of a module has no settings of its own. -/
theorem config_of_suiteOf (h : suiteOf s target t = (.ok suite, t')) : suite.config = none := by
  obtain ⟨name, ds, -, hmodule⟩ := exists_of_suiteOf h
  obtain ⟨_, t₁, -, hadd⟩ := Session.bind_eq_ok hmodule
  exact Suite.config_of_addAll hadd

end SuiteOf

/-! ## What an inspection lists -/

/-- The lines on a scenario: a heading and below it, each one indented, the names of its cases. -/
def entry (l : Scenario × List String) : List String :=
  heading l.1.title.label l.1.items.length l.2.length :: l.2.map ("  " ++ ·)

/-- What an inspection lists of a module, from the names of the cases of its scenarios. -/
def listing (target : String) (listed : List (Scenario × List String)) : List String :=
  if listed.isEmpty then ["No scenarios found in " ++ target] else listed.flatMap entry

/-- A scenario with its cases, beside the same scenario with their names. -/
structure Named (defaults : Config) (g : Scenario × List Case) (l : Scenario × List String) :
    Prop where
  scenario : l.1 = g.1
  names : g.2.mapM (Case.name defaults) = .ok l.2

section Names

variable {defaults : Config} {suite : Suite} {groups : List (Scenario × List Case)}
  {listed : List (Scenario × List String)} {t t' : Trace}

theorem exists_named (h : suite.expand defaults t = (.ok groups, t')) :
    ∃ listed, List.Forall₂ (Named defaults) groups listed := by
  obtain ⟨-, hcases⟩ := Suite.expand_groups h
  clear h
  induction groups with
  | nil => exact ⟨[], .nil⟩
  | cons g groups ih =>
    obtain ⟨vs, hvs, hg⟩ := hcases g List.mem_cons_self
    have hnamed : ∀ c ∈ g.2, ∃ name, c.name defaults = .ok name := by
      intro c hc
      rw [hg] at hc
      exact Case.exists_name (Case.path_texts hvs hc) defaults
    obtain ⟨names, hnames⟩ := exists_mapM_eq_ok hnamed
    obtain ⟨listed, hlisted⟩ := ih fun f hf => hcases f (.tail _ hf)
    exact ⟨(g.1, names) :: listed, .cons ⟨rfl, hnames⟩ hlisted⟩

/-- The names of all cases, one scenario after the other. -/
theorem names_of_named (h : List.Forall₂ (Named defaults) groups listed) :
    (groups.flatMap (·.2)).mapM (Case.name defaults) = .ok (listed.flatMap (·.2)) := by
  induction h with
  | nil => rfl
  | cons hg _ ih =>
    rw [List.flatMap_cons, List.flatMap_cons, mapM_eq_ok_iff]
    exact List.rel_append (mapM_eq_ok_iff.mp hg.names) (mapM_eq_ok_iff.mp ih)

theorem scenarios_of_named (h : List.Forall₂ (Named defaults) groups listed) :
    listed.map Prod.fst = groups.map Prod.fst := by
  induction h with
  | nil => rfl
  | cons hg _ ih => rw [List.map_cons, List.map_cons, hg.scenario, ih]

theorem inspectScenario_run {g : Scenario × List Case} {l : Scenario × List String}
    (h : Named defaults g l) (t : Trace) :
    inspectScenario defaults false g.1 g.2 t =
      (.ok (), { t with printed := t.printed ++ entry l }) := by
  have hnames := h.names
  rw [Case.mapM_name] at hnames
  have hlength := (mapM_eq_ok_iff.mp h.names).length_eq
  rw [inspectScenario, Session.bind_run_ok (Session.print_run _ t), if_neg Bool.false_ne_true,
    printPaths_run hnames, entry, h.scenario, hlength]
  simp [Session.print]

theorem forEach_inspectScenario (h : List.Forall₂ (Named defaults) groups listed) (t : Trace) :
    ∃ us, Session.forEach (fun g => inspectScenario defaults false g.1 g.2) groups t =
      (.ok us, { t with printed := t.printed ++ listed.flatMap entry }) := by
  induction h generalizing t with
  | nil => exact ⟨[], by simp [Session.forEach, Session.pure]⟩
  | cons hg _ ih =>
    obtain ⟨us, hus⟩ := ih _
    refine ⟨() :: us, (Session.bind_run_ok (inspectScenario_run hg t)).trans
      ((Session.bind_run_ok hus).trans ?_)⟩
    simp [Session.pure]

variable {s : Surroundings} {target : String} {u u₁ u₂ : Trace}

theorem inspectSuite_lists (hsuite : suiteOf s target u = (.ok suite, u₁))
    (hexpand : suite.expand defaults u₁ = (.ok groups, u₂))
    (hlisted : List.Forall₂ (Named defaults) groups listed) (t : Trace) :
    ∃ t', inspectSuite defaults s target false t = (.ok (), t') ∧
      t'.printed = t.printed ++ listing target listed := by
  have hloaded := (suiteOf_steady hsuite).run_ok t
  have hquiet := (quiet_suiteOf s target).printed t
  have hmembers : suite.members.map (fun e => e.2.scenario) = groups.map Prod.fst :=
    (Suite.expand_groups hexpand).1.symm
  rw [inspectSuite, Session.bind_run_ok hloaded]
  cases hlisted with
  | nil =>
    have hnone : suite.members = [] := by simpa using hmembers
    rw [hnone, if_pos List.isEmpty_nil]
    exact ⟨_, rfl, by rw [← hquiet]; rfl⟩
  | @cons g l groups listed hg hrest =>
    have hsome : suite.members.isEmpty = false := by
      cases hm : suite.members with
      | nil =>
        rw [hm] at hmembers
        cases hmembers
      | cons _ _ => rfl
    have hgroups := (Suite.expand_steady hexpand).run_ok (suiteOf s target t).2
    have hsame := (Suite.quiet_expand defaults suite).printed (suiteOf s target t).2
    obtain ⟨us, hus⟩ := forEach_inspectScenario (.cons hg hrest)
      (suite.expand defaults (suiteOf s target t).2).2
    rw [hsome, if_neg Bool.false_ne_true, Session.bind_run_ok hgroups, Session.bind_run_ok hus]
    exact ⟨_, rfl, by rw [listing, List.isEmpty_cons, if_neg Bool.false_ne_true, hsame, hquiet]⟩

/-- An inspection of a module that is not taken for a document lists its cases by name. -/
theorem inspect_lists_names (hending : documentEndings.contains (Target.ending target) = false)
    (hsuite : suiteOf s target u = (.ok suite, u₁))
    (hexpand : suite.expand defaults u₁ = (.ok groups, u₂))
    (hlisted : List.Forall₂ (Named defaults) groups listed) (t : Trace) :
    ∃ t', inspect defaults s target false t = (.ok (), t') ∧
      t'.printed = t.printed ++ listing target listed := by
  obtain ⟨t', hrun, hprinted⟩ := inspectSuite_lists hsuite hexpand hlisted
    (Session.log Log.info logger ("Inspecting scenarios from: " ++ target) t).2
  refine ⟨t', ?_, hprinted⟩
  rw [inspect, Session.bind_run_ok (Session.log_run _ _ _ t), hending, if_neg Bool.false_ne_true]
  exact guarded_run_ok target hrun

end Names

/-! ## Rows -/

/-- The headers of the table of a run. -/
def headers : List String := ["Case", "Outcome", "Reason", "Time"]

/-- The row of a case: its name, the outcome and the reason that it always ends with, and the time
that it took. -/
inductive RowOf (defaults : Config) (c : Case) : List String → Prop where
  | mk {name : String} {v : Verdict} (time : String) (hname : c.name defaults = .ok name)
    (hv : Run.Settled defaults c (.ok v)) :
    RowOf defaults c [name, v.outcome.name, v.reason.getD "", time]

/-- How many rows tell of an outcome. -/
def rowsWith (o : Outcome) (rows : List (List String)) : Nat :=
  rows.countP fun row => row[1]? == some o.name

/-- The line below the table, from its rows. -/
def totalsOf (rows : List (List String)) (seconds : String) : String :=
  "\n" ++ Text.counted rows.length "case" ++ ": " ++ toString (rowsWith .passed rows) ++
    " passed, " ++ toString (rowsWith .failed rows) ++ " failed, " ++
    toString (rowsWith .errored rows) ++ " errored in " ++ seconds ++ " s"

/-- The table of some rows as a run prints it: nothing without rows, or else the headers, a rule,
and a line for each row, every cell filled up to the width of its column. -/
inductive Tabled : List (List String) → List String → Prop where
  | none : Tabled [] []
  | lines {rows : List (List String)} (widths : List Nat) (hwidths : widths.length = headers.length)
    (hne : rows ≠ []) :
    Tabled rows ["\n".intercalate (Text.Table.filled widths headers ::
      Text.Table.rule widths :: rows.map (Text.Table.filled widths))]

section Rows

variable {defaults : Config} {cases : List Case} {results : List Execution}
  {rows : List (List String)}

/-- A row tells of the outcome of a result. -/
def Tells (r : Execution) (row : List String) : Prop :=
  row.length = headers.length ∧ row[1]? = some r.outcome.name

/-- Results that cases always end with have rows, one for each case in order. -/
theorem exists_rows (htexts : ∀ c ∈ cases, ∀ v ∈ c.path, ∃ ps, v.points? = some ps)
    (hall : List.Forall₂ (fun c r => Run.Settled defaults c (.ok r.verdict)) cases results) :
    ∃ rows, results.mapM (row defaults) = .ok rows ∧ List.Forall₂ (RowOf defaults) cases rows ∧
      List.Forall₂ Tells results rows := by
  induction hall with
  | nil => exact ⟨[], rfl, .nil, .nil⟩
  | @cons c r cases results hc _ ih =>
    obtain ⟨rows, hrows, hof, htells⟩ := ih fun d hd => htexts d (.tail _ hd)
    have hpath : r.path = c.path := Run.path_of_settled (htexts c List.mem_cons_self) hc
    obtain ⟨name, hname⟩ := Path.format_of_texts (htexts c List.mem_cons_self) defaults.separator
    have hshown : r.name defaults = .ok name := by rw [Execution.name, hpath, hname]
    let time := (r.duration.mul (Number.Binary64.ofInt 1000)).fixed 1 ++ " ms"
    have hrow : row defaults r = .ok [name, r.outcome.name, r.reason.getD "", time] := by
      rw [row, hshown]
      rfl
    refine ⟨_, ?_, .cons (.mk time hname hc) hof, .cons ⟨rfl, rfl⟩ htells⟩
    exact mapM_eq_ok_iff.mpr (.cons hrow (mapM_eq_ok_iff.mp hrows))

/-- The rows that tell of an outcome are as many as the results with it. -/
theorem count_eq (h : List.Forall₂ Tells results rows) (o : Outcome) :
    (⟨results⟩ : Summary).count o = rowsWith o rows := by
  have hcount : results.countP (fun r => r.outcome == o) = rowsWith o rows := by
    induction h with
    | nil => rfl
    | @cons r row results rows hr _ ih =>
      have hsame : (r.outcome == o) = (row[1]? == some o.name) := by
        rw [Bool.eq_iff_iff, beq_iff_eq, beq_iff_eq, hr.2, Option.some_inj, Outcome.name_eq_iff]
      rw [rowsWith, List.countP_cons, List.countP_cons, hsame, ih, rowsWith]
  rw [← hcount, List.countP_eq_length_filter]
  rfl

/-- The line below the table counts its rows. -/
theorem totals_eq (h : List.Forall₂ Tells results rows) (duration : Number.Binary64) :
    totals ⟨results⟩ duration = totalsOf rows (duration.fixed 2) := by
  rw [totals, totalsOf, count_eq h, count_eq h, count_eq h, ← h.length_eq]

theorem rowsWith_add (h : List.Forall₂ Tells results rows) :
    rowsWith .passed rows + rowsWith .failed rows + rowsWith .errored rows = rows.length := by
  rw [← count_eq h, ← count_eq h, ← count_eq h, Summary.count_add, h.length_eq]

/-- All results are passes just if every row tells of a pass. -/
theorem ok_iff (h : List.Forall₂ Tells results rows) :
    (⟨results⟩ : Summary).ok = true ↔ ∀ row ∈ rows, row[1]? = some Outcome.passed.name := by
  rw [Summary.ok]
  induction h with
  | nil => simp
  | @cons r row results rows hr _ ih =>
    rw [List.all_cons, Bool.and_eq_true, ih, List.forall_mem_cons, hr.2, Option.some_inj,
      Outcome.name_eq_iff, Execution.ok, beq_iff_eq]

theorem printResults_run (hrows : results.mapM (row defaults) = .ok rows)
    (h : List.Forall₂ Tells results rows) (t : Trace) :
    ∃ lines, Tabled rows lines ∧ printResults defaults ⟨results⟩ t =
      (.ok (), { t with printed := t.printed ++ lines }) := by
  have hgiven : Session.ofFault (results.mapM (row defaults)) t = (.ok rows, t) := by
    rw [hrows]
    rfl
  rw [printResults, Session.bind_run_ok hgiven]
  by_cases hne : rows = []
  · subst hne
    exact ⟨[], .none, by rw [List.append_nil]; rfl⟩
  · have hlengths : ∀ row ∈ rows, row.length = headers.length := by
      intro row hrow
      obtain ⟨r, -, hr⟩ := exists_of_mem_forall₂ h hrow
      exact hr.1
    obtain ⟨widths, hfits, hformat⟩ := Text.Table.format_eq Text.Table.defaultWidth hne hlengths
    refine ⟨_, .lines widths (hfits headers (.head _)).length_eq hne, ?_⟩
    have hsome : (!rows.isEmpty) = true := by simpa using hne
    rw [if_pos hsome]
    show (Session.ofFault (Text.Table.format headers rows Text.Table.defaultWidth) >>= _) t = _
    rw [hformat]
    rfl

end Rows

/-! ## Whole runs -/

/-- The outcome of a run: nothing if every row tells of a pass, or the status for errors. -/
def statusOf (rows : List (List String)) : Except Failure Unit :=
  if ∀ row ∈ rows, row[1]? = some Outcome.passed.name then .ok ()
  else .error (.raised .systemExit [.int 1])

section Running

variable {defaults : Config} {s : Surroundings} {target : String} {select : List String}
  {results : List Execution} {rows : List (List String)}

/-- The work of a run: making the suite of a module and running it. -/
def work (defaults : Config) (s : Surroundings) (target : String) (select : List String) :
    Session Summary := do
  let suite ← suiteOf s target
  suite.run defaults select

theorem quiet_work (defaults : Config) (s : Surroundings) (target : String)
    (select : List String) : Session.Quiet Failure.IsAny (work defaults s target select) :=
  (quiet_suiteOf s target).any.bind fun suite => Suite.quiet_run defaults select suite

theorem status_run (h : List.Forall₂ Tells results rows) (t : Trace) :
    (if !(⟨results⟩ : Summary).ok then Session.leave 1 else pure () : Session Unit) t =
      (statusOf rows, t) := by
  have hiff := ok_iff h
  rw [statusOf]
  cases hok : (⟨results⟩ : Summary).ok with
  | true =>
    rw [if_pos (hiff.mp hok)]
    rfl
  | false =>
    rw [if_neg fun hall => Bool.false_ne_true (hok.symm.trans (hiff.mpr hall))]
    rfl

/-- After its work a run prints the table and the line below it. -/
theorem run_of_work {t t₁ : Trace}
    (hwork : work defaults s target select
      (Session.log Log.info logger ("Running scenarios from: " ++ target) t).2 =
        (.ok ⟨results⟩, t₁))
    (hrows : results.mapM (row defaults) = .ok rows) (htells : List.Forall₂ Tells results rows) :
    ∃ lines, Tabled rows lines ∧ run defaults s target select t = (statusOf rows, { t₁ with
      printed := t.printed ++ (lines ++ [totalsOf rows ((t₁.clock.sub t.clock).fixed 2)]) }) := by
  have hquiet := (quiet_work defaults s target select).printed
    (Session.log Log.info logger ("Running scenarios from: " ++ target) t).2
  rw [hwork] at hquiet
  have hprinted : t₁.printed = t.printed := hquiet
  obtain ⟨lines, hlines, htable⟩ := printResults_run hrows htells t₁
  have hguarded := guarded_run_ok target hwork
  refine ⟨lines, hlines, ?_⟩
  rw [run, Session.bind_run_ok (Session.log_run _ _ _ t), Session.bind_run_ok (Session.now_run _)]
  refine (Session.bind_run_ok hguarded).trans ((Session.bind_run_ok htable).trans ?_)
  rw [Session.bind_run_ok (Session.now_run _), totals_eq htells, ← hprinted, ← List.append_assoc]
  exact (Session.bind_run_ok (Session.print_run _ _)).trans (status_run htells _)

/-- The rows of cases begin with their names. -/
theorem heads_of_rows {cases : List Case} {names : List String}
    (hnames : cases.mapM (Case.name defaults) = .ok names)
    (h : List.Forall₂ (RowOf defaults) cases rows) : rows.map List.head? = names.map some := by
  rw [mapM_eq_ok_iff] at hnames
  induction h generalizing names with
  | nil =>
    cases hnames
    rfl
  | cons hc _ ih =>
    obtain ⟨time, hname, -⟩ := hc
    cases hnames with
    | cons hname' hrest =>
      cases hname.symm.trans hname'
      rw [List.map_cons, List.map_cons, ih hrest]
      rfl

/--
Running the cases of a module, none of whose steps asks to stop, with any patterns. The table has a
row for each selected case, for every case of the suite without patterns, in order: the name of the
case and the outcome and the reason that the case always ends with. The line below counts the rows
with each outcome, and these numbers add up to the number of rows. The run leaves with the status for
errors just if some row tells of anything but a pass. An inspection lists the same names in the same
order, unless the name of the module ends like that of a document.
-/
theorem run_reports {suite : Suite} {cases : List Case} {u u₁ u₂ : Trace}
    (hseparator : defaults.separator ≠ "") (hsuite : suiteOf s target u = (.ok suite, u₁))
    (hcases : suite.cases defaults u₁ = (.ok cases, u₂))
    (hsteps : ∀ c ∈ cases, ∀ f, ¬ c.Interrupted f) :
    ∃ listed : List (Scenario × List String), listed.map Prod.fst = suite.scenarios ∧
      cases.mapM (Case.name defaults) = .ok (listed.flatMap (·.2)) ∧
      (documentEndings.contains (Target.ending target) = false → ∀ t, ∃ t',
        inspect defaults s target false t = (.ok (), t') ∧
          t'.printed = t.printed ++ listing target listed) ∧
      ∀ select, ∃ parsed, Selection.parse defaults.separator select = .ok parsed ∧
        ∀ t, ∃ rows lines seconds t',
          List.Forall₂ (RowOf defaults)
            (if select.isEmpty then cases else Selection.keep parsed cases) rows ∧
          (select = [] → rows.map List.head? = (listed.flatMap (·.2)).map some) ∧
          Tabled rows lines ∧ run defaults s target select t = (statusOf rows, t') ∧
          t'.printed = t.printed ++ (lines ++ [totalsOf rows seconds]) ∧
          rowsWith .passed rows + rowsWith .failed rows + rowsWith .errored rows =
            rows.length := by
  obtain ⟨groups, hexpand, rfl⟩ := Suite.cases_eq_ok hcases
  obtain ⟨listed, hlisted⟩ := exists_named hexpand
  have hnames := names_of_named hlisted
  have hsettings : suite.settings defaults = defaults := by
    rw [Suite.settings, config_of_suiteOf hsuite]
    rfl
  have htexts := Suite.texts_of_mem_cases hcases
  have hsettled : ∀ c ∈ groups.flatMap (·.2), ∃ v, Run.Settled defaults c (.ok v) :=
    fun c hc => Run.exists_verdict defaults (htexts c hc) (hsteps c hc)
  refine ⟨listed, (scenarios_of_named hlisted).trans (Suite.expand_groups hexpand).1, hnames,
    fun hending => inspect_lists_names hending hsuite hexpand hlisted, fun select => ?_⟩
  have hread : ∀ text ∈ select, ∃ pattern, Path.parse defaults.separator text = .ok pattern :=
    fun text _ => Path.exists_parse hseparator text
  obtain ⟨parsed, hparse⟩ : ∃ parsed, Selection.parse defaults.separator select = .ok parsed :=
    exists_mapM_eq_ok hread
  refine ⟨parsed, hparse, fun t => ?_⟩
  -- The suite is made after the line in the log, and runs the selected cases after that.
  have hloaded := (suiteOf_steady hsuite).run_ok
    (Session.log Log.info logger ("Running scenarios from: " ++ target) t).2
  rw [← hsettings] at hparse
  obtain ⟨results, t₁, hrun, hall⟩ := Suite.run_selected hcases hsettled hparse _
  have hwork := (Session.bind_run_ok hloaded).trans hrun
  have hselected : ∀ c ∈ (if select.isEmpty then groups.flatMap (·.2)
      else Selection.keep parsed (groups.flatMap (·.2))), c ∈ groups.flatMap (·.2) := by
    intro c hc
    split at hc
    · exact hc
    · exact List.mem_of_mem_filter hc
  obtain ⟨rows, hrows, hof, htells⟩ := exists_rows (fun c hc => htexts c (hselected c hc)) hall
  obtain ⟨lines, hlines, hend⟩ := run_of_work hwork hrows htells
  refine ⟨rows, lines, _, _, hof, ?_, hlines, hend, rfl, rowsWith_add htells⟩
  rintro rfl
  exact heads_of_rows hnames hof

end Running

/-- A scenario with two cases, whose assertion answers with the value that it is given. -/
def echoScenario : Scenario where
  title := .text "t"
  items := [.declared ⟨.text "a", [⟨.text "x", .bool true⟩, ⟨.text "y", .bool false⟩]⟩]
  compute := .constant (.bool true)
  check := .function fun arguments => ⟨[], .ok ((arguments.lookup "a").getD .null)⟩
  resultName := defaultResultName

/-- The suite of that scenario. -/
def echoSuite : Suite :=
  ⟨none, [(.text "t", ⟨0, echoScenario⟩)]⟩

/-- A case of that scenario. -/
def echoCase (name : String) (value : Bool) : Case :=
  ⟨[.text "t", .text "a", .text name], [(.text "a", .bool value)], some echoScenario⟩

/-- Surroundings without files. -/
def modulesOnly (modules : List (String × Definitions)) : Surroundings where
  look _ := .missing
  modules := modules

/-- Surroundings in which a module of that scenario lies in another module. -/
def echoModules (name : String) : Surroundings :=
  modulesOnly [("pkg", []), (name, [("test_t", .scenario ⟨0, echoScenario⟩)])]

theorem not_interrupted_echoCase :
    ∀ c ∈ [echoCase "x" true, echoCase "y" false], ∀ f, ¬ c.Interrupted f := by
  intro c hc
  have hs : c.scenario = some echoScenario := by
    rcases List.mem_pair.mp hc with rfl | rfl <;> rfl
  refine Case.not_interrupted_of_patient hs ⟨?_, ?_⟩ ⟨?_, ?_⟩ <;>
    rintro apply ⟨⟩ arguments f ⟨⟩

/-- The run of such a module, with one row that tells of a pass and one of a mismatch. -/
theorem run_reports_echoModules :
    ({} : Config).separator ≠ "" ∧ ∃ suite cases u₁ u₂,
      suiteOf (echoModules "m") "m" default = (.ok suite, u₁) ∧
      suite.cases {} u₁ = (.ok cases, u₂) ∧ (∀ c ∈ cases, ∀ f, ¬ c.Interrupted f) ∧
      ∃ rows lines seconds, List.Forall₂ (RowOf {}) cases rows ∧ Tabled rows lines ∧
        (run {} (echoModules "m") "m" [] default).1 = statusOf rows ∧
        (run {} (echoModules "m") "m" [] default).2.printed = lines ++ [totalsOf rows seconds] ∧
        (run {} (echoModules "m") "m" [] default).2.printed =
          ["   Case    | Outcome | Reason                                            | Time  \n" ++
            "   --------+---------+---------------------------------------------------+-------\n" ++
            "   t::a::x | passed  |                                                   | 0.0 ms\n" ++
            "   t::a::y | failed  | t::a::y: assertion returned False for result True | 0.0 ms",
            "\n2 cases: 1 passed, 1 failed, 0 errored in 0.00 s"] := by
  have hsuite : suiteOf (echoModules "m") "m" default = (.ok echoSuite, _) := rfl
  have hcases (t : Trace) : echoSuite.cases {} t =
      (.ok [echoCase "x" true, echoCase "y" false], _) := rfl
  have hseparator : ({} : Config).separator ≠ "" := by decide
  obtain ⟨listed, -, -, -, hrun⟩ :=
    run_reports hseparator hsuite (hcases _) not_interrupted_echoCase
  obtain ⟨parsed, -, hreports⟩ := hrun []
  obtain ⟨rows, lines, seconds, t', hrows, -, hlines, hend, hprinted, -⟩ := hreports default
  refine ⟨hseparator, _, _, _, _, hsuite, hcases _, not_interrupted_echoCase, rows, lines, seconds,
    hrows, hlines, ?_, ?_, by decide +kernel⟩
  · rw [hend]
  · rw [hend, hprinted]
    rfl

/-- A module whose name ends like that of a document is run, but an inspection looks for a file. -/
theorem inspect_echoModules_document :
    (∃ suite cases u₁ u₂, suiteOf (echoModules "pkg.yaml") "pkg.yaml" default = (.ok suite, u₁) ∧
      suite.cases {} u₁ = (.ok cases, u₂) ∧ (∀ c ∈ cases, ∀ f, ¬ c.Interrupted f) ∧
      cases.mapM (Case.name {}) = .ok ["t::a::x", "t::a::y"]) ∧
    (run {} (echoModules "pkg.yaml") "pkg.yaml" [] default).2.printed.length = 2 ∧
    (inspect {} (echoModules "pkg.yaml") "pkg.yaml" false default).1 =
      .error (.raised .systemExit [.int 1]) ∧
    (inspect {} (echoModules "pkg.yaml") "pkg.yaml" false default).2.printed =
      ["ERROR: Target not found: pkg.yaml"] := by
  have hsuite : suiteOf (echoModules "pkg.yaml") "pkg.yaml" default =
      (.ok echoSuite, _) := rfl
  have hcases (t : Trace) : echoSuite.cases {} t =
      (.ok [echoCase "x" true, echoCase "y" false], _) := rfl
  exact ⟨⟨_, _, _, _, hsuite, hcases _, not_interrupted_echoCase, by rfl⟩, rfl, rfl, rfl⟩

end Command

end CaseGrid
