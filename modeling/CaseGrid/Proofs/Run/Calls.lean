import CaseGrid.Case
import CaseGrid.Proofs.Except
import CaseGrid.Proofs.Session

/-
  The calls that executing a case makes, and how they end. A step answers to its arguments only, so
  both are told from the case alone: which steps can be called and with what (`legalCall?`,
  `Case.calls`), and which failure of a step ends a whole run. That is a request to stop, and any
  failure whose text cannot be formed (`Failure.Halts`).

  Proved: each step is called at most once, and just if that is legal (`calledOnce_calls`); a call is
  steady (`callStep_legal`, `callStep_illegal`); the assertion ends the run exactly when its step
  does (`check_steady`); steps that never ask to stop, and whose failures have texts, end no run
  (`not_interrupted_of_patient`).
-/

namespace CaseGrid

open Session (Steady)

/-! ## Failures that end a run -/

namespace Failure

/-- Whether a failure of a step reports a mismatch, as only one of the assertion can. -/
def isMismatch (role : Role) (f : Failure) : Bool :=
  role = .check && f.isA .assertion

/--
What a failure of a step ends a whole run with, if it does: a request to stop that reports no
mismatch with itself, any other failure that has no text with what forming its text fails with.
-/
inductive Halts (role : Role) (f : Failure) : Failure → Prop where
  | request (hstop : f.isA .interruption = true) (hmismatch : f.isMismatch role = false) :
    f.Halts role f
  | mute {g : Failure} (hstop : f.isA .interruption = true → f.isMismatch role = true)
    (htext : f.message = .error g) : f.Halts role g

theorem not_isA_interruption_fault (e : Fault) : (fault e).isA .interruption = false := by
  cases e <;> rfl

theorem not_halts_of_text {role : Role} {f : Failure} {text : String}
    (hstop : f.isA .interruption = false) (htext : f.message = .ok text) (g : Failure) :
    ¬ f.Halts role g := by
  rintro (⟨hstop', -⟩ | ⟨-, htext'⟩)
  · rw [hstop] at hstop'
    cases hstop'
  · rw [htext] at htext'
    cases htext'

/-- A fault that shows no number too long to be written ends no run. -/
theorem not_halts_fault {e : Fault} (h : e.isTooLong = false) (role : Role) (g : Failure) :
    ¬ (fault e).Halts role g :=
  not_halts_of_text (not_isA_interruption_fault e)
    (by rw [message, Fault.message, if_neg (by simp [h])]; rfl) g

end Failure

namespace Step

/-- A step that never fails with a request to stop. -/
def Patient (step : Step) : Prop :=
  ∀ apply, step = .function apply → ∀ arguments f, (apply arguments).outcome = .error f →
    f.isA .interruption = false

/-- A step whose failures all have a text. -/
def Telling (step : Step) : Prop :=
  ∀ apply, step = .function apply → ∀ arguments f, (apply arguments).outcome = .error f →
    ∃ text, f.message = .ok text

end Step

/-! ## The calls of a case -/

namespace Case

/-- What a step is called with and how it replies, if it can be called with bindings at all. -/
def legalCall? (step : Step) (bindings : Entries Value) : Option (Arguments × Reply) :=
  match step with
  | .stray _ => none
  | .function apply =>
    match argumentsOf bindings with
    | .error _ => none
    | .ok arguments => some (arguments, apply arguments)

/-- The calls that follow a computation with some result. -/
def callsAfter (s : Scenario) (bindings : Entries Value) (result : Value) : List Call :=
  match withResult s bindings result with
  | .error _ => []
  | .ok extended =>
    match legalCall? s.check extended with
    | none => []
    | some (arguments, _) => [⟨.check, arguments⟩]

/--
The calls that executing a case makes: the computation with the bindings if that is legal, and if it
returns the assertion with the bindings and the result if that is legal.
-/
def calls (c : Case) : List Call :=
  match c.scenario with
  | none => []
  | some s =>
    match legalCall? s.compute c.bindings with
    | none => []
    | some (arguments, reply) =>
      ⟨.compute, arguments⟩ ::
        match reply.outcome with
        | .error _ => []
        | .ok result => callsAfter s c.bindings result

/-- A step that can be called with bindings fails there and ends the run. -/
def StepHalts (role : Role) (step : Step) (bindings : Entries Value) (g : Failure) : Prop :=
  ∃ arguments reply f, legalCall? step bindings = some (arguments, reply) ∧
    reply.outcome = .error f ∧ f.Halts role g

/-- The assertion that follows a result fails and ends the run. -/
def CheckHalts (s : Scenario) (bindings : Entries Value) (result : Value) (g : Failure) : Prop :=
  ∃ extended, withResult s bindings result = .ok extended ∧ StepHalts .check s.check extended g

/--
A step of a case, called as executing the case calls it, fails and ends the run, with the failure of
the step or with one of forming its text.
-/
inductive Interrupted (c : Case) (g : Failure) : Prop where
  | computing {s : Scenario} (hs : c.scenario = some s)
    (hhalts : StepHalts .compute s.compute c.bindings g) : Interrupted c g
  | checking {s : Scenario} {arguments : Arguments} {reply : Reply} {result : Value}
    (hs : c.scenario = some s) (hcall : legalCall? s.compute c.bindings = some (arguments, reply))
    (hreply : reply.outcome = .ok result) (hhalts : CheckHalts s c.bindings result g) :
    Interrupted c g

/-- A case whose step ends the run has a computation that can be called. -/
theorem legal_of_interrupted {c : Case} {g : Failure} (h : c.Interrupted g) :
    ∃ s arguments reply, c.scenario = some s ∧
      legalCall? s.compute c.bindings = some (arguments, reply) := by
  obtain ⟨hs, _, _, _, hcall, -⟩ | ⟨hs, hcall, -, -⟩ := h
  · exact ⟨_, _, _, hs, hcall⟩
  · exact ⟨_, _, _, hs, hcall⟩

theorem interrupted_iff {c : Case} {s : Scenario} {arguments : Arguments} {reply : Reply}
    {g : Failure} (hs : c.scenario = some s)
    (hcall : legalCall? s.compute c.bindings = some (arguments, reply)) :
    c.Interrupted g ↔ (∃ f, reply.outcome = .error f ∧ f.Halts .compute g) ∨
      ∃ result, reply.outcome = .ok result ∧ CheckHalts s c.bindings result g := by
  constructor
  · rintro (⟨hs', _, _, f, hcall', hreply, hhalts⟩ | ⟨hs', hcall', hreply, hhalts⟩)
    · cases hs.symm.trans hs'
      cases hcall.symm.trans hcall'
      exact .inl ⟨f, hreply, hhalts⟩
    · cases hs.symm.trans hs'
      cases hcall.symm.trans hcall'
      exact .inr ⟨_, hreply, hhalts⟩
  · rintro (⟨f, hreply, hhalts⟩ | ⟨result, hreply, hhalts⟩)
    · exact .computing hs ⟨arguments, reply, f, hcall, hreply, hhalts⟩
    · exact .checking hs hcall hreply hhalts

/-- What a legal call replies is what the function answers. -/
theorem exists_of_legalCall {step : Step} {bindings : Entries Value} {arguments : Arguments}
    {reply : Reply} (h : legalCall? step bindings = some (arguments, reply)) :
    ∃ apply, step = .function apply ∧ reply = apply arguments := by
  cases step with
  | stray v => cases h
  | function apply =>
    refine ⟨apply, rfl, ?_⟩
    cases hgiven : argumentsOf bindings with
    | error e => simp [legalCall?, hgiven] at h
    | ok given =>
      simp only [legalCall?, hgiven, Option.some.injEq, Prod.mk.injEq] at h
      rw [← h.2, h.1]

/-- A step that never asks to stop, and whose failures have texts, ends no run. -/
theorem not_stepHalts {step : Step} (hpatient : step.Patient) (htelling : step.Telling)
    (role : Role) (bindings : Entries Value) (g : Failure) :
    ¬ StepHalts role step bindings g := by
  rintro ⟨arguments, reply, f, hcall, hreply, hhalts⟩
  obtain ⟨apply, happly, rfl⟩ := exists_of_legalCall hcall
  obtain ⟨text, htext⟩ := htelling apply happly _ f hreply
  exact Failure.not_halts_of_text (hpatient apply happly _ f hreply) htext g hhalts

/-- A case with such steps is not interrupted. -/
theorem not_interrupted_of_patient {c : Case} {s : Scenario} (hs : c.scenario = some s)
    (hcompute : s.compute.Patient ∧ s.compute.Telling)
    (hcheck : s.check.Patient ∧ s.check.Telling) (g : Failure) : ¬ c.Interrupted g := by
  rintro (⟨hs', hhalts⟩ | ⟨hs', -, -, extended, -, hhalts⟩)
  · cases hs.symm.trans hs'
    exact not_stepHalts hcompute.1 hcompute.2 _ _ _ hhalts
  · cases hs.symm.trans hs'
    exact not_stepHalts hcheck.1 hcheck.2 _ _ _ hhalts

/-! ### Faults of calling -/

/-- Arguments are refused only for names that are no texts. -/
theorem eq_nameNotText_of_argumentsOf {bindings : Entries Value} {e : Fault}
    (h : argumentsOf bindings = .error e) : e = .nameNotText := by
  induction bindings with
  | nil => cases h
  | cons entry bindings ih =>
    obtain ⟨k, v⟩ := entry
    rw [argumentsOf.eq_def] at h
    dsimp only at h
    split at h
    · exact ih (map_eq_error_iff.mp h)
    · cases h
      rfl

theorem not_isTooLong_of_withResult {s : Scenario} {bindings : Entries Value} {result : Value}
    {e : Fault} (h : withResult s bindings result = .error e) : e.isTooLong = false := by
  rw [withResult] at h
  obtain hkey | ⟨name, -, h⟩ := bind_eq_error_iff.mp h
  · rw [Value.key] at hkey
    split at hkey <;> cases hkey
    rfl
  · split at h
    · obtain hcalled | ⟨called, -, h⟩ := bind_eq_error_iff.mp h
      · rw [stepLabel.eq_def] at hcalled
        split at hcalled
        · cases hcalled
        · rw [Value.eq_numberTooLong_of_shown hcalled]
          rfl
      · obtain hgiven | ⟨given, -, h⟩ := bind_eq_error_iff.mp h
        · rw [Value.eq_numberTooLong_of_shown hgiven]
          rfl
        · cases h
          rfl
    · cases h

section Steps

variable {step : Step} {bindings : Entries Value}

theorem callStep_legal {arguments : Arguments} {reply : Reply} (role : Role)
    (h : legalCall? step bindings = some (arguments, reply)) :
    Steady (callStep role step bindings) reply.outcome [⟨role, arguments⟩] := by
  cases step with
  | stray v => cases h
  | function apply =>
    cases hgiven : argumentsOf bindings with
    | error e => simp [legalCall?, hgiven] at h
    | ok given =>
      obtain ⟨rfl, rfl⟩ : given = arguments ∧ apply given = reply := by
        simpa [legalCall?, hgiven] using h
      simp only [callStep, hgiven]
      exact Session.steady_call role apply given

/-- A step that cannot be called is a fault, which calls nothing. -/
theorem callStep_illegal (role : Role) (h : legalCall? step bindings = none) :
    ∃ e, e.isTooLong = false ∧ Steady (callStep role step bindings) (.error (.fault e)) [] := by
  cases step with
  | stray v => exact ⟨_, rfl, Session.steady_fail _⟩
  | function apply =>
    cases hgiven : argumentsOf bindings with
    | ok arguments => simp [legalCall?, hgiven] at h
    | error e =>
      obtain rfl := eq_nameNotText_of_argumentsOf hgiven
      simp only [callStep, hgiven]
      exact ⟨_, rfl, Session.steady_fail _⟩

end Steps

section Check

variable {c : Case} {s : Scenario} {result : Value}

/-- What comes after the step of an assertion calls nothing and ends no run. -/
theorem verdict_steady (defaults : Config) {path : Path}
    (hpath : ∀ v ∈ path, ∃ ps, v.points? = some ps) (result verdict : Value) :
    ∃ outcome : Except Failure Unit, Steady (match verdict with
      | .bool false => do
        let shown ← Session.ofFault result.written
        .fail (mismatch defaults path ("assertion returned False for result " ++ shown))
      | _ => return ()) outcome [] ∧ ∀ f g, outcome = .error f → ¬ f.Halts .check g := by
  split
  · cases hshown : result.written with
    | error e =>
      obtain rfl := Value.eq_numberTooLong_of_written hshown
      refine ⟨_, (Session.steady_ofExcept _).bind_error, ?_⟩
      rintro f g ⟨⟩
      exact Failure.not_halts_fault rfl .check g
    | ok shown =>
      obtain ⟨title, htitle⟩ := Path.format_of_texts hpath defaults.separator
      refine ⟨_, (Session.steady_ofExcept (.ok shown)).bind (Session.steady_fail _), ?_⟩
      rintro f g ⟨⟩
      rw [mismatch, htitle]
      exact Failure.not_halts_of_text rfl rfl g
  · exact ⟨.ok (), Session.steady_pure (), by rintro f g ⟨⟩⟩

/-- An assertion ends the run exactly when its step, called legally, does. -/
theorem check_steady (defaults : Config) (hs : c.scenario = some s)
    (hpath : ∀ v ∈ c.path, ∃ ps, v.points? = some ps) (result : Value) :
    ∃ outcome, Steady (c.check defaults result) outcome (callsAfter s c.bindings result) ∧
      ∀ g, (∃ f, outcome = .error f ∧ f.Halts .check g) ↔ CheckHalts s c.bindings result g := by
  have hfault {e : Fault} (h : e.isTooLong = false) (g : Failure) :
      ¬ ∃ f, (.error (.fault e) : Except Failure Unit) = .error f ∧ f.Halts .check g := by
    rintro ⟨f, ⟨⟩, hhalts⟩
    exact Failure.not_halts_fault h .check g hhalts
  cases hbindings : withResult s c.bindings result with
  | error e =>
    simp only [check, callsAfter, CheckHalts, StepHalts, hs, hbindings]
    refine ⟨_, Session.steady_fail (.fault e), fun g => ?_⟩
    simpa using hfault (not_isTooLong_of_withResult hbindings) g
  | ok bindings =>
    simp only [check, callsAfter, CheckHalts, StepHalts, hs, hbindings]
    cases hcall : legalCall? s.check bindings with
    | none =>
      obtain ⟨e, hshort, he⟩ := callStep_illegal .check hcall
      refine ⟨_, he.bind_error, fun g => ?_⟩
      simpa [hcall] using hfault hshort g
    | some call =>
      obtain ⟨arguments, reply⟩ := call
      have hstep := callStep_legal .check hcall
      cases hreply : reply.outcome with
      | error f =>
        rw [hreply] at hstep
        refine ⟨_, hstep.bind_error, fun g => ?_⟩
        simp [hcall, hreply]
      | ok verdict =>
        rw [hreply] at hstep
        obtain ⟨outcome, hafter, hquiet⟩ := verdict_steady defaults hpath result verdict
        refine ⟨outcome, by simpa using hstep.bind hafter, fun g => ?_⟩
        simpa [hcall, hreply] using fun f hf => hquiet f g hf

end Check

end Case

end CaseGrid
