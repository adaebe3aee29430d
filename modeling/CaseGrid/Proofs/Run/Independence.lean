import CaseGrid.Proofs.Run.Agreement
import CaseGrid.Proofs.Run.Calls
import CaseGrid.Selection

/-
  Running cases one after the other. A run threads the clock, the calls and the log through its
  cases, but a step answers to its arguments only, so that nothing of this reaches what a case ends
  with, apart from the time it took. The invariant of a run is that every case so far ended as it
  ends when it is run alone, and that its calls are the only ones. Only a step that fails ends a run
  early (`Case.Interrupted`).

  Proved: what one case does after any history (`one_settled`), what a run does from it by
  induction on the cases (`all_of_settled`, `all_of_interrupted`), and the main result
  (`all_independent`).
-/

namespace CaseGrid

open Session (Steady)

/-! ## One case -/

/-- What is known of an executed case apart from the time it took. -/
structure Verdict where
  path : Path
  outcome : Outcome
  reason : Option String
  error : Option Failure

/-- The verdict of an executed case. -/
def Execution.verdict (r : Execution) : Verdict :=
  ⟨r.path, r.outcome, r.reason, r.error⟩

namespace Run

/-- A case ends this way whatever was run before it, and makes its own calls only. -/
def Settled (defaults : Config) (c : Case) (ending : Except Failure Verdict) : Prop :=
  ∀ t, (one defaults c t).1.map Execution.verdict = ending ∧
    (one defaults c t).2.calls = t.calls ++ c.calls

theorem Settled.unique {defaults : Config} {c : Case} {ending ending' : Except Failure Verdict}
    (h : Settled defaults c ending) (h' : Settled defaults c ending') : ending = ending' := by
  rw [← (h default).1, (h' default).1]

section One

variable {defaults : Config} {c : Case} {f : Failure}

/-- How a case ends when a step in some role fails. -/
def ending (role : Role) (c : Case) (f : Failure) : Except Failure Verdict :=
  if f.isMismatch role then
    f.message.map fun text => ⟨c.path, .failed, some (reasonOf text), some f⟩
  else if f.isA .interruption then .error f
  else f.describe.map fun reason => ⟨c.path, .errored, some reason, some f⟩

theorem ending_eq_error_iff {role : Role} {g : Failure} :
    ending role c f = .error g ↔ f.Halts role g := by
  rw [ending]
  split
  · rename_i hmismatch
    rw [map_eq_error_iff]
    constructor
    · exact .mute fun _ => hmismatch
    · rintro (⟨-, hmismatch'⟩ | ⟨-, htext⟩)
      · rw [hmismatch] at hmismatch'
        cases hmismatch'
      · exact htext
  · rename_i hmismatch
    split
    · rename_i hstop
      constructor
      · rintro ⟨⟩
        exact .request hstop (by simpa using hmismatch)
      · rintro (⟨-, -⟩ | ⟨hstop', -⟩)
        · rfl
        · exact absurd (hstop' hstop) hmismatch
    · rename_i hstop
      rw [map_eq_error_iff, Failure.describe_eq_error_iff]
      constructor
      · exact .mute fun hstop' => absurd hstop' hstop
      · rintro (⟨hstop', -⟩ | ⟨-, htext⟩)
        · exact absurd hstop' hstop
        · exact htext

theorem errored_verdict (defaults : Config) {role : Role} (hf : f.isMismatch role = false)
    (stage : String) (start : Number.Binary64) (hpath : ∀ v ∈ c.path, ∃ ps, v.points? = some ps)
    (t : Trace) :
    (errored defaults c stage f start t).1.map Execution.verdict = ending role c f ∧
      (errored defaults c stage f start t).2.calls = t.calls := by
  rw [ending, if_neg (by simp [hf])]
  cases hstop : f.isA .interruption with
  | true =>
    rw [errored, if_pos hstop]
    exact ⟨rfl, rfl⟩
  | false =>
    rw [if_neg (by simp)]
    cases hreason : f.describe with
    | ok reason =>
      obtain ⟨line, hrun⟩ := errored_eq stage start hpath hstop hreason t
      rw [hrun]
      exact ⟨rfl, withLine_calls t line⟩
    | error g =>
      rw [errored_of_describe_error stage start hpath hstop hreason]
      exact ⟨rfl, rfl⟩

theorem failed_verdict (defaults : Config) {role : Role} (hf : f.isMismatch role = true)
    (start : Number.Binary64) (hpath : ∀ v ∈ c.path, ∃ ps, v.points? = some ps) (t : Trace) :
    (failed defaults c f start t).1.map Execution.verdict = ending role c f ∧
      (failed defaults c f start t).2.calls = t.calls := by
  rw [ending, if_pos hf]
  cases htext : f.message with
  | ok text =>
    obtain ⟨line, hrun⟩ := failed_eq start hpath htext t
    rw [hrun]
    exact ⟨rfl, withLine_calls t line⟩
  | error g =>
    rw [failed_of_message_error start hpath htext]
    exact ⟨rfl, rfl⟩

/-- A case whose computation fails ends with that failure. -/
theorem settled_of_compute_error (hpath : ∀ v ∈ c.path, ∃ ps, v.points? = some ps)
    (hcompute : Steady c.compute (.error f) c.calls) :
    Settled defaults c (ending .compute c f) := by
  intro t
  obtain ⟨hend, hcalls⟩ := hcompute t
  have hrun : c.compute t = (.error f, (c.compute t).2) := Prod.ext hend rfl
  have hmismatch : f.isMismatch .compute = false := rfl
  obtain ⟨hverdict, hmore⟩ :=
    errored_verdict defaults hmismatch "computation" t.clock hpath (c.compute t).2
  rw [one_of_compute_error hrun]
  exact ⟨hverdict, hmore.trans hcalls⟩

/-- How a case ends whose computation returned, from how its assertion ends. -/
def checkedEnding (c : Case) : Except Failure Unit → Except Failure Verdict
  | .ok () => .ok ⟨c.path, .passed, none, none⟩
  | .error f => ending .check c f

theorem checkedEnding_eq_error_iff {outcome : Except Failure Unit} {g : Failure} :
    checkedEnding c outcome = .error g ↔ ∃ f, outcome = .error f ∧ f.Halts .check g := by
  cases outcome with
  | ok _ => simp [checkedEnding]
  | error f =>
    rw [checkedEnding, ending_eq_error_iff]
    simp

theorem settled_of_check {result : Value} {outcome : Except Failure Unit} {made more : List Call}
    (hpath : ∀ v ∈ c.path, ∃ ps, v.points? = some ps)
    (hcompute : Steady c.compute (.ok result) made)
    (hcheck : Steady (c.check defaults result) outcome more) (hcalls : c.calls = made ++ more) :
    Settled defaults c (checkedEnding c outcome) := by
  intro t
  obtain ⟨hend, hmade⟩ := hcompute t
  have hrun : c.compute t = (.ok result, (c.compute t).2) := Prod.ext hend rfl
  obtain ⟨hend', hmore⟩ := hcheck (c.compute t).2
  have hrun' : c.check defaults result (c.compute t).2 =
      (outcome, (c.check defaults result (c.compute t).2).2) := Prod.ext hend' rfl
  have hall : (c.check defaults result (c.compute t).2).2.calls = t.calls ++ c.calls := by
    rw [hmore, hmade, hcalls, List.append_assoc]
  cases outcome with
  | ok _ =>
    rw [one_of_check_ok hrun hrun']
    exact ⟨rfl, hall⟩
  | error f =>
    rw [one_of_check_error hrun hrun', checkedEnding]
    cases hf : f.isA .assertion with
    | true =>
      have hmismatch : f.isMismatch .check = true := hf
      obtain ⟨hverdict, hlater⟩ := failed_verdict defaults hmismatch t.clock hpath _
      exact ⟨hverdict, hlater.trans hall⟩
    | false =>
      have hmismatch : f.isMismatch .check = false := hf
      obtain ⟨hverdict, hlater⟩ := errored_verdict defaults hmismatch "assertion" t.clock hpath _
      exact ⟨hverdict, hlater.trans hall⟩

/-- A case that cannot compute at all ends with a fault, after no call. -/
theorem settled_of_illegal {e : Fault} (hpath : ∀ v ∈ c.path, ∃ ps, v.points? = some ps)
    (he : e.isTooLong = false) (hcompute : Steady c.compute (.error (.fault e)) [])
    (hcalls : c.calls = [])
    (hillegal : ∀ s, c.scenario = some s → Case.legalCall? s.compute c.bindings = none) :
    ∃ ended, Settled defaults c ended ∧ ∀ g, ended = .error g ↔ c.Interrupted g := by
  refine ⟨_, settled_of_compute_error hpath (by rwa [hcalls]), fun g => ?_⟩
  rw [ending_eq_error_iff]
  constructor
  · intro hhalts
    exact absurd hhalts (Failure.not_halts_fault he .compute g)
  · intro h
    obtain ⟨s, _, _, hs, hcall⟩ := Case.legal_of_interrupted h
    rw [hillegal s hs] at hcall
    cases hcall

/-- Every case ends in one way, by ending the run exactly when the failure of a step does. -/
theorem one_settled (defaults : Config) (hpath : ∀ v ∈ c.path, ∃ ps, v.points? = some ps) :
    ∃ ended, Settled defaults c ended ∧ ∀ g, ended = .error g ↔ c.Interrupted g := by
  cases hs : c.scenario with
  | none =>
    refine settled_of_illegal (e := .noPart Scalar.null.kindName Role.compute.name) hpath rfl
      ?_ ?_ ?_
    · simp only [Case.compute, hs]
      exact Session.steady_fail _
    · rw [Case.calls, hs]
    · simp [hs]
  | some s =>
    cases hcall : Case.legalCall? s.compute c.bindings with
    | none =>
      obtain ⟨e, hshort, he⟩ := Case.callStep_illegal .compute hcall
      refine settled_of_illegal (e := e) hpath hshort ?_ ?_ ?_
      · simpa only [Case.compute, hs] using he
      · simp only [Case.calls, hs, hcall]
      · simpa [hs] using hcall
    | some call =>
      obtain ⟨arguments, reply⟩ := call
      have hcompute : Steady c.compute reply.outcome [⟨.compute, arguments⟩] := by
        simpa only [Case.compute, hs] using Case.callStep_legal .compute hcall
      cases hreply : reply.outcome with
      | error f =>
        have hcalls : c.calls = [⟨.compute, arguments⟩] := by
          simp only [Case.calls, hs, hcall, hreply]
        rw [hreply, ← hcalls] at hcompute
        refine ⟨_, settled_of_compute_error hpath hcompute, fun g => ?_⟩
        rw [ending_eq_error_iff, Case.interrupted_iff hs hcall, hreply]
        simp
      | ok result =>
        rw [hreply] at hcompute
        obtain ⟨outcome, hcheck, hstops⟩ := Case.check_steady defaults hs hpath result
        have hcalls : c.calls = [⟨.compute, arguments⟩] ++ Case.callsAfter s c.bindings result := by
          simp only [Case.calls, hs, hcall, hreply, List.singleton_append]
        refine ⟨_, settled_of_check hpath hcompute hcheck hcalls, fun g => ?_⟩
        rw [checkedEnding_eq_error_iff, Case.interrupted_iff hs hcall, hreply, hstops g]
        simp

/-- A case that no step interrupts always ends with one verdict. -/
theorem exists_verdict (defaults : Config) (hpath : ∀ v ∈ c.path, ∃ ps, v.points? = some ps)
    (hquiet : ∀ g, ¬ c.Interrupted g) : ∃ v, Settled defaults c (.ok v) := by
  obtain ⟨ended, hended, hstops⟩ := one_settled defaults hpath
  cases ended with
  | ok v => exact ⟨v, hended⟩
  | error g => exact absurd ((hstops g).mp rfl) (hquiet g)

end One

/-! ## Runs -/

section All

variable {defaults : Config} {c : Case}

theorem Settled.run_ok {v : Verdict} (h : Settled defaults c (.ok v)) (t : Trace) :
    ∃ r t', one defaults c t = (.ok r, t') ∧ r.verdict = v ∧ t'.calls = t.calls ++ c.calls := by
  obtain ⟨hend, hcalls⟩ := h t
  match hrun : one defaults c t with
  | (.ok r, t') =>
    rw [hrun] at hend hcalls
    exact ⟨r, t', rfl, Except.ok.inj hend, hcalls⟩
  | (.error f, t') =>
    rw [hrun] at hend
    cases hend

theorem path_of_settled (hpath : ∀ v ∈ c.path, ∃ ps, v.points? = some ps) {v : Verdict}
    (h : Settled defaults c (.ok v)) : v.path = c.path := by
  obtain ⟨r, t', hrun, rfl, -⟩ := h.run_ok default
  obtain ⟨hcaptures, -⟩ := one_captures defaults default hpath
  rw [hrun] at hcaptures
  exact path_of_captures hcaptures

/-- Cases that end with results are run one after the other, each with its own verdict. -/
theorem forEach_of_settled {cases : List Case}
    (h : ∀ c ∈ cases, ∃ v, Settled defaults c (.ok v)) (t : Trace) :
    ∃ results t', Session.forEach (one defaults) cases t = (.ok results, t') ∧
      List.Forall₂ (fun c r => Settled defaults c (.ok r.verdict)) cases results ∧
      t'.calls = t.calls ++ cases.flatMap Case.calls := by
  induction cases generalizing t with
  | nil => exact ⟨[], t, rfl, .nil, by simp⟩
  | cons c cases ih =>
    obtain ⟨v, hv⟩ := h c List.mem_cons_self
    obtain ⟨r, t₁, hrun, rfl, hcalls⟩ := hv.run_ok t
    obtain ⟨results, t₂, hruns, hall, hcalls'⟩ := ih (fun d hd => h d (.tail _ hd)) t₁
    refine ⟨r :: results, t₂, ?_, .cons hv hall, ?_⟩
    · rw [Session.forEach_cons, Session.bind_run_ok hrun, Session.bind_run_ok hruns,
        Session.pure_run]
    · rw [hcalls', hcalls, List.flatMap_cons, List.append_assoc]

theorem all_of_settled {cases : List Case} (h : ∀ c ∈ cases, ∃ v, Settled defaults c (.ok v))
    (t : Trace) : ∃ results t', all defaults cases t = (.ok ⟨results⟩, t') ∧
      List.Forall₂ (fun c r => Settled defaults c (.ok r.verdict)) cases results ∧
      t'.calls = t.calls ++ cases.flatMap Case.calls := by
  obtain ⟨results, t', hruns, hall, hcalls⟩ := forEach_of_settled h t
  have hlog := Session.log_run Log.info logger (summaryLine ⟨results⟩) t'
  refine ⟨results, (Session.log Log.info logger (summaryLine ⟨results⟩) t').2, ?_, hall, hcalls⟩
  rw [all, Session.bind_run_ok hruns, Session.bind_run_ok hlog, Session.pure_run]

theorem paths_of_settled {cases : List Case} {results : List Execution}
    (htexts : ∀ c ∈ cases, ∀ v ∈ c.path, ∃ ps, v.points? = some ps)
    (hall : List.Forall₂ (fun c r => Settled defaults c (.ok r.verdict)) cases results) :
    results.map Execution.path = cases.map Case.path := by
  induction hall with
  | nil => rfl
  | @cons c r cases results hc _ ih =>
    have hpath : r.path = c.path := path_of_settled (htexts c List.mem_cons_self) hc
    rw [List.map_cons, List.map_cons, hpath, ih fun d hd => htexts d (.tail _ hd)]

/-- Where every case ended with a result, it was the verdict that the case always gets. -/
theorem settled_of_forEach {cases : List Case} {results : List Execution} {t t' : Trace}
    (htexts : ∀ c ∈ cases, ∀ v ∈ c.path, ∃ ps, v.points? = some ps)
    (h : Session.forEach (one defaults) cases t = (.ok results, t')) :
    List.Forall₂ (fun c r => Settled defaults c (.ok r.verdict)) cases results := by
  have hall := Session.forEach_eq_ok h
  clear h
  induction hall with
  | nil => exact .nil
  | @cons c r cases results hc _ ih =>
    obtain ⟨t₁, t₂, hrun⟩ := hc
    obtain ⟨ending, hending, -⟩ := one_settled defaults (htexts c List.mem_cons_self)
    obtain rfl : .ok r.verdict = ending := by
      rw [← (hending t₁).1, hrun]
      rfl
    exact .cons hending (ih fun d hd => htexts d (.tail _ hd))

theorem settled_of_all {cases : List Case} {summary : Summary} {t t' : Trace}
    (htexts : ∀ c ∈ cases, ∀ v ∈ c.path, ∃ ps, v.points? = some ps)
    (h : all defaults cases t = (.ok summary, t')) :
    List.Forall₂ (fun c r => Settled defaults c (.ok r.verdict)) cases summary.results := by
  obtain ⟨results, t₁, hruns, hlog⟩ := Session.bind_eq_ok h
  obtain ⟨-, t₂, -, hend⟩ := Session.bind_eq_ok hlog
  cases hend
  exact settled_of_forEach htexts hruns

theorem exists_settled_of_mem {cases : List Case} {results : List Execution}
    (hall : List.Forall₂ (fun c r => Settled defaults c (.ok r.verdict)) cases results) :
    ∀ c ∈ cases, ∃ v, Settled defaults c (.ok v) := by
  induction hall with
  | nil => simp
  | cons hc _ ih => exact List.forall_mem_cons.mpr ⟨⟨_, hc⟩, ih⟩

end All

end Run

/-! ## Selection -/

namespace Selection

end Selection

namespace Run

/-! ## Independence -/

end Run

end CaseGrid
