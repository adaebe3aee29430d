import CaseGrid.Proofs.Except
import CaseGrid.Run

/-
  Executing a case and running it. Executing lets every failure of a step pass; running captures
  it as an outcome. Both call the same steps with the same arguments, the assertion only after a
  computation that returned, and a run leaves nothing more behind than a line of the log.

  Proved: how a run ends from how the two steps end (`one_of_compute_error`, `one_of_check_ok`,
  `one_of_check_error`), when a failure of the assertion is a mismatch (`mismatched_iff`), what is
  raised for an outcome, and from these that running and executing agree (`one_agrees`).
-/

namespace CaseGrid

/-! ## Kinds of failures -/

namespace Failure

/-- No fault of an operation is a mismatch. -/
theorem isA_assertion_fault (e : Fault) : (Failure.fault e).isA .assertion = false := by
  cases e <;> rfl

/-- A failure is described by its kind alone, or by its kind and its text. -/
theorem describe_eq_ok_iff {f : Failure} {reason : String} :
    f.describe = .ok reason ↔ ∃ text, f.message = .ok text ∧
      (if text = "" then f.kind.name else f.kind.name ++ ": " ++ text) = reason := by
  rw [describe, map_eq_ok_iff]

theorem describe_eq_error_iff {f g : Failure} : f.describe = .error g ↔ f.message = .error g := by
  rw [describe, map_eq_error_iff]

/-- Only a failure without a text of a kind without a name is described by nothing. -/
theorem eq_empty_of_describe {f : Failure} (h : f.describe = .ok "") :
    f.kind.name = "" ∧ f.message = .ok "" := by
  obtain ⟨text, htext, hreason⟩ := describe_eq_ok_iff.mp h
  split at hreason
  · rename_i hempty
    exact ⟨hreason, hempty ▸ htext⟩
  · rw [← String.toList_inj] at hreason
    simp at hreason

end Failure

namespace Case

/-! ## Calls of the steps -/

/--
A failure of the assertion of a case that reports a mismatch: one that the assertion step raised as
such, or the one that stands for its verdict of false.
-/
inductive Mismatched (defaults : Config) (c : Case) (t : Trace) : Failure → Prop where
  | raised {s : Scenario} {result : Value} {bindings : Entries Value} {t₁ t₂ : Trace} {f : Failure}
    (hs : c.scenario = some s) (hcompute : c.compute t = (.ok result, t₁))
    (hbindings : withResult s c.bindings result = .ok bindings)
    (hcheck : callStep .check s.check bindings t₁ = (.error f, t₂))
    (hf : f.isA .assertion = true) : Mismatched defaults c t f
  | refused {s : Scenario} {result : Value} {bindings : Entries Value} {t₁ t₂ : Trace}
    {title shown : String} (hs : c.scenario = some s)
    (hcompute : c.compute t = (.ok result, t₁))
    (hbindings : withResult s c.bindings result = .ok bindings)
    (hcheck : callStep .check s.check bindings t₁ = (.ok (.bool false), t₂))
    (hshown : result.written = .ok shown) (htitle : c.path.format defaults.separator = .ok title) :
    Mismatched defaults c t
      (.assertion c.path title ("assertion returned False for result " ++ shown))

theorem mismatched_of_check_error {defaults : Config} {c : Case} {result : Value} {t t₁ t₂ : Trace}
    {f : Failure} (hcompute : c.compute t = (.ok result, t₁))
    (hcheck : c.check defaults result t₁ = (.error f, t₂)) (hf : f.isA .assertion = true) :
    Mismatched defaults c t f := by
  have hfault (e : Fault) : Failure.fault e ≠ f := by
    rintro rfl
    rw [Failure.isA_assertion_fault] at hf
    cases hf
  cases hs : c.scenario with
  | none =>
    simp only [check, hs] at hcheck
    cases hcheck
    exact absurd rfl (hfault _)
  | some s =>
    cases hbindings : withResult s c.bindings result with
    | error e =>
      simp only [check, hs, hbindings] at hcheck
      cases hcheck
      exact absurd rfl (hfault _)
    | ok bindings =>
      simp only [check, hs, hbindings] at hcheck
      match hcall : callStep .check s.check bindings t₁ with
      | (.error g, t') =>
        rw [Session.bind_run_error hcall] at hcheck
        cases hcheck
        exact .raised hs hcompute hbindings hcall hf
      | (.ok verdict, t') =>
        rw [Session.bind_run_ok hcall] at hcheck
        split at hcheck
        · cases hshown : result.written with
          | error e =>
            rw [hshown] at hcheck
            cases hcheck
            exact absurd rfl (hfault _)
          | ok shown =>
            rw [hshown] at hcheck
            have hmismatch := congrArg Prod.fst hcheck
            replace hmismatch : mismatch defaults c.path
                ("assertion returned False for result " ++ shown) = f := Except.error.inj hmismatch
            rw [mismatch] at hmismatch
            split at hmismatch
            · rename_i title htitle
              rw [← hmismatch]
              exact .refused hs hcompute hbindings hcall hshown htitle
            · exact absurd hmismatch (hfault _)
        · cases hcheck

theorem isA_assertion_of_mismatched {defaults : Config} {c : Case} {t : Trace} {f : Failure}
    (h : Mismatched defaults c t f) : f.isA .assertion = true := by
  cases h with
  | raised _ _ _ _ hf => exact hf
  | refused _ _ _ _ _ _ => rfl

/-- A failure of the assertion belongs to its family exactly when it reports a mismatch. -/
theorem mismatched_iff {defaults : Config} {c : Case} {result : Value} {t t₁ t₂ : Trace}
    {f : Failure} (hcompute : c.compute t = (.ok result, t₁))
    (hcheck : c.check defaults result t₁ = (.error f, t₂)) :
    Mismatched defaults c t f ↔ f.isA .assertion = true :=
  ⟨isA_assertion_of_mismatched, mismatched_of_check_error hcompute hcheck⟩

/-- What the computation failed with is no mismatch. -/
theorem not_mismatched_of_compute_error {defaults : Config} {c : Case} {t t₁ : Trace}
    {f g : Failure} (hcompute : c.compute t = (.error f, t₁)) : ¬ Mismatched defaults c t g := by
  rintro (⟨-, hcompute', -⟩ | ⟨-, hcompute', -⟩) <;> rw [hcompute] at hcompute' <;> cases hcompute'

end Case

namespace Run

/-! ## How a run ends -/

/-- One more line of the log. -/
def withLine (t : Trace) (line : String) : Trace :=
  (Session.log Log.debug logger line t).2

section Endings

variable {defaults : Config} {c : Case} {t t₁ t₂ : Trace} {result : Value} {f : Failure}

theorem reasonOf_ne_empty (text : String) : reasonOf text ≠ "" := by
  unfold reasonOf
  split
  · decide
  · assumption

theorem errored_eq (stage : String) (start : Number.Binary64) {reason : String}
    (hpath : ∀ v ∈ c.path, ∃ ps, v.points? = some ps) (hf : f.isA .interruption = false)
    (hreason : f.describe = .ok reason) (t : Trace) :
    ∃ line, errored defaults c stage f start t =
      (.ok ⟨c.path, .errored, some reason, some f, t.clock.sub start⟩, withLine t line) := by
  obtain ⟨name, hname⟩ := Case.exists_name hpath defaults
  rw [errored, hf, hname, hreason]
  exact ⟨_, rfl⟩

/-- What forming the description of a failure fails with ends the run, without a line of the log. -/
theorem errored_of_describe_error {g : Failure} (stage : String) (start : Number.Binary64)
    (hpath : ∀ v ∈ c.path, ∃ ps, v.points? = some ps) (hf : f.isA .interruption = false)
    (hmute : f.describe = .error g) (t : Trace) :
    errored defaults c stage f start t = (.error g, t) := by
  obtain ⟨name, hname⟩ := Case.exists_name hpath defaults
  rw [errored, hf, hname, hmute]
  rfl

theorem failed_eq (start : Number.Binary64) (hpath : ∀ v ∈ c.path, ∃ ps, v.points? = some ps)
    {text : String} (htext : f.message = .ok text) (t : Trace) :
    ∃ line, failed defaults c f start t =
      (.ok ⟨c.path, .failed, some (reasonOf text), some f, t.clock.sub start⟩,
        withLine t line) := by
  obtain ⟨name, hname⟩ := Case.exists_name hpath defaults
  rw [failed, hname, htext]
  exact ⟨_, rfl⟩

theorem failed_of_message_error {g : Failure} (start : Number.Binary64)
    (hpath : ∀ v ∈ c.path, ∃ ps, v.points? = some ps) (hmute : f.message = .error g) (t : Trace) :
    failed defaults c f start t = (.error g, t) := by
  obtain ⟨name, hname⟩ := Case.exists_name hpath defaults
  rw [failed, hname, hmute]
  rfl

theorem one_of_compute_error (hcompute : c.compute t = (.error f, t₁)) :
    one defaults c t = errored defaults c "computation" f t.clock t₁ := by
  have hattempt : Session.attempt c.compute t = (.ok (.error f), t₁) :=
    Session.attempt_run hcompute
  rw [one, Session.bind_run_ok (Session.now_run t), Session.bind_run_ok hattempt]

theorem one_of_check_ok (hcompute : c.compute t = (.ok result, t₁))
    (hcheck : c.check defaults result t₁ = (.ok (), t₂)) :
    one defaults c t = (.ok ⟨c.path, .passed, none, none, t₂.clock.sub t.clock⟩, t₂) := by
  rw [one, Session.bind_run_ok (Session.now_run t),
    Session.bind_run_ok (Session.attempt_run hcompute)]
  dsimp only
  rw [Session.bind_run_ok (Session.attempt_run hcheck)]
  rfl

theorem one_of_check_error (hcompute : c.compute t = (.ok result, t₁))
    (hcheck : c.check defaults result t₁ = (.error f, t₂)) :
    one defaults c t =
      (if f.isA .assertion then failed defaults c f t.clock
        else errored defaults c "assertion" f t.clock) t₂ := by
  rw [one, Session.bind_run_ok (Session.now_run t),
    Session.bind_run_ok (Session.attempt_run hcompute)]
  dsimp only
  rw [Session.bind_run_ok (Session.attempt_run hcheck)]

end Endings

theorem withLine_calls (t : Trace) (line : String) : (withLine t line).calls = t.calls := rfl

/-! ## What is raised for an outcome -/

/--
How running a case ends when executing it ends in a given way: with a pass when executing returns,
with the same failure if it asks to stop, unless the assertion reported it as a mismatch, and
otherwise with the failure as the error of a result, which failed if the failure reports a mismatch
and errored if not. The reason is empty only for an error whose kind has no name and whose text is
empty. A failure whose text cannot be formed becomes no result: what forming it fails with passes.
-/
inductive Captures (defaults : Config) (c : Case) (t : Trace) :
    Except Failure Value → Except Failure Execution → Prop where
  | passed (result : Value) (duration : Number.Binary64) :
    Captures defaults c t (.ok result) (.ok ⟨c.path, .passed, none, none, duration⟩)
  | stopped {f : Failure} (hf : f.isA .interruption = true)
    (hmismatch : ¬ Case.Mismatched defaults c t f) :
    Captures defaults c t (.error f) (.error f)
  | failed {f : Failure} {text reason : String} (duration : Number.Binary64)
    (hmismatch : Case.Mismatched defaults c t f) (htext : f.message = .ok text)
    (hreason : reason ≠ "") :
    Captures defaults c t (.error f) (.ok ⟨c.path, .failed, some reason, some f, duration⟩)
  | errored {f : Failure} {text reason : String} (duration : Number.Binary64)
    (hf : f.isA .interruption = false) (hmismatch : ¬ Case.Mismatched defaults c t f)
    (htext : f.message = .ok text) (hreason : reason = "" → f.kind.name = "" ∧ text = "") :
    Captures defaults c t (.error f) (.ok ⟨c.path, .errored, some reason, some f, duration⟩)
  | mute {f g : Failure} (hf : f.isA .interruption = true → Case.Mismatched defaults c t f)
    (htext : f.message = .error g) : Captures defaults c t (.error f) (.error g)

section Agreement

variable {defaults : Config} {c : Case} {t : Trace}

/-- A step that failed without a mismatch ends a run with an error or stops it. -/
theorem captures_errored {start : Number.Binary64} {f : Failure} (stage : String)
    (hpath : ∀ v ∈ c.path, ∃ ps, v.points? = some ps)
    (hmismatch : ¬ Case.Mismatched defaults c t f) (t' : Trace) :
    Captures defaults c t (.error f) (errored defaults c stage f start t').1 ∧
      (errored defaults c stage f start t').2.calls = t'.calls := by
  cases hf : f.isA .interruption with
  | true =>
    rw [errored, if_pos hf]
    exact ⟨.stopped hf hmismatch, rfl⟩
  | false =>
    cases hreason : f.describe with
    | ok reason =>
      obtain ⟨line, hrun⟩ := errored_eq stage start hpath hf hreason t'
      obtain ⟨text, htext, -⟩ := Failure.describe_eq_ok_iff.mp hreason
      rw [hrun]
      refine ⟨.errored _ hf hmismatch htext ?_, withLine_calls t' line⟩
      rintro rfl
      obtain ⟨hname, hempty⟩ := Failure.eq_empty_of_describe hreason
      exact ⟨hname, Except.ok.inj (htext.symm.trans hempty)⟩
    | error g =>
      rw [errored_of_describe_error stage start hpath hf hreason]
      refine ⟨.mute (fun hstop => ?_) (Failure.describe_eq_error_iff.mp hreason), rfl⟩
      rw [hf] at hstop
      cases hstop

/-- A mismatch that the assertion reported fails the case, if it has a text. -/
theorem captures_failed {start : Number.Binary64} {f : Failure}
    (hpath : ∀ v ∈ c.path, ∃ ps, v.points? = some ps)
    (hmismatch : Case.Mismatched defaults c t f) (t' : Trace) :
    Captures defaults c t (.error f) (failed defaults c f start t').1 ∧
      (failed defaults c f start t').2.calls = t'.calls := by
  cases htext : f.message with
  | ok text =>
    obtain ⟨line, hrun⟩ := failed_eq start hpath htext t'
    rw [hrun]
    exact ⟨.failed _ hmismatch htext (reasonOf_ne_empty text), withLine_calls t' line⟩
  | error g =>
    rw [failed_of_message_error start hpath htext]
    exact ⟨.mute (fun _ => hmismatch) htext, rfl⟩

/-- Running a case captures how executing it ends, and calls what executing calls. -/
theorem one_captures (defaults : Config) (t : Trace)
    (hpath : ∀ v ∈ c.path, ∃ ps, v.points? = some ps) :
    Captures defaults c t (c.execute defaults t).1 (one defaults c t).1 ∧
      (one defaults c t).2.calls = (c.execute defaults t).2.calls := by
  rw [Case.execute]
  match hcompute : c.compute t with
  | (.error f, t₁) =>
    rw [Session.bind_run_error hcompute, one_of_compute_error hcompute]
    exact captures_errored "computation" hpath (Case.not_mismatched_of_compute_error hcompute) t₁
  | (.ok result, t₁) =>
    rw [Session.bind_run_ok hcompute]
    match hcheck : c.check defaults result t₁ with
    | (.ok (), t₂) =>
      rw [Session.bind_run_ok hcheck, one_of_check_ok hcompute hcheck]
      exact ⟨.passed result _, rfl⟩
    | (.error f, t₂) =>
      rw [Session.bind_run_error hcheck, one_of_check_error hcompute hcheck]
      cases hf : f.isA .assertion with
      | false =>
        refine captures_errored "assertion" hpath (fun hmismatch => ?_) t₂
        rw [Case.mismatched_iff hcompute hcheck, hf] at hmismatch
        cases hmismatch
      | true =>
        rw [if_pos rfl]
        exact captures_failed hpath (Case.mismatched_of_check_error hcompute hcheck hf) t₂

theorem path_of_captures {outcome : Except Failure Value} {r : Execution}
    (h : Captures defaults c t outcome (.ok r)) : r.path = c.path := by
  cases h <;> rfl

end Agreement

end Run

end CaseGrid
