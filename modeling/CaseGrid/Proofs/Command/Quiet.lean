import CaseGrid.Command.Basic
import CaseGrid.Proofs.Session

/-
  What is quiet: loading documents, making suites and expanding them, and running cases write to
  the log only. So the lines that a command prints are those that it prints itself, after the work
  is done. What checks the rules fails with malformed scenarios and faults; only loading a module
  and calling a step let a failure of any other kind pass.

  Proved: one statement for each operation, from the operations that it is put together from, up
  to those that commands start (`quiet_load`, `quiet_cases`, `quiet_run`, `quiet_suiteOf`).
-/

namespace CaseGrid

open Session

/-- A failure that is neither a missing file nor one of importing a module. -/
structure Failure.IsInner (f : Failure) : Prop where
  missingFile : f.isA .missingFile = false
  importing : f.isA .importing = false

namespace Failure

theorem isInner_fault (e : Fault) : (fault e).IsInner := by
  constructor <;> cases e <;> rfl

theorem isInner_specification (e : SpecificationError) : (specification e).IsInner :=
  ⟨rfl, rfl⟩

theorem isInner_breakdown (why : Yaml.Breakdown) (message : String) :
    (other why.kind message).IsInner := by
  constructor <;> cases why <;> rfl

end Failure

open Failure

/-! ## Documents -/

namespace Document

theorem quiet_refuse {β : Type} (line : String) (e : SpecificationError) :
    Quiet IsInner (refuse line e : Session β) :=
  (confined_log _ _ _).bind fun _ => confined_fail (isInner_specification e)

theorem quiet_read {α : Type} (source : Source α) (a : α) : Quiet IsInner (read source a) := by
  unfold read
  split
  · refine (confined_ofFault _ isInner_fault).bind fun report => ?_
    cases report with
    | none => exact confined_ofFault _ isInner_fault
    | some r => exact quiet_refuse _ _
  · exact quiet_refuse _ _

theorem quiet_load (text : String) : Quiet IsInner (load text) := by
  unfold load
  split
  · rename_i trouble _
    cases trouble with
    | failed why message => exact confined_fail (isInner_breakdown why message)
    | character _ _ => exact quiet_refuse _ _
    | found _ _ _ _ _ => exact quiet_refuse _ _
  · exact quiet_refuse _ _
  · exact (quiet_read _ _).bind fun _ => confined_pure _

end Document

/-! ## Expansions -/

namespace Expansion

theorem quiet_report {α : Type} (x : Except Rejection α) : Quiet IsInner (report x) := by
  cases x with
  | ok a => exact confined_pure a
  | error r =>
    refine (confined_ofFault _ isInner_fault).bind fun e => (confined_log _ _ _).bind fun _ => ?_
    exact confined_fail (isInner_specification e)

theorem quiet_paths (config : Config) (title : Value) (items : List Item) :
    Quiet IsInner (paths config title items) :=
  (quiet_report _).bind fun _ => confined_pure _

theorem quiet_expand (config : Config) (s : Scenario) : Quiet IsInner (expand config s) :=
  (quiet_report _).bind fun _ => (confined_log _ _ _).bind fun _ => confined_pure _

end Expansion

/-! ## Suites -/

namespace Suite

theorem quiet_add (s : Suite) (m : Member) : Quiet IsInner (s.add m) := by
  refine (confined_ofFault _ isInner_fault).bind fun title => ?_
  split
  · exact (confined_log _ _ _).bind fun _ => confined_fail (isInner_specification _)
  · exact confined_pure _

theorem quiet_addAll (ms : List Member) (s : Suite) : Quiet IsInner (addAll ms s) := by
  induction ms generalizing s with
  | nil => exact confined_pure s
  | cons m ms ih => exact (quiet_add s m).bind ih

theorem quiet_ofModule (config : Option Config) (start : Option String) (moduleName : String)
    (ds : Definitions) : Quiet IsInner (ofModule config start moduleName ds) :=
  (confined_log _ _ _).bind fun _ => quiet_addAll _ _

theorem quiet_expand (defaults : Config) (s : Suite) : Quiet IsInner (s.expand defaults) := by
  refine (confined_forEach fun x _ => Expansion.quiet_report _).bind fun _ => ?_
  exact confined_forEach fun x _ => (Expansion.quiet_expand _ x).bind fun _ => confined_pure _

theorem quiet_cases (defaults : Config) (s : Suite) : Quiet IsInner (s.cases defaults) :=
  (quiet_expand defaults s).bind fun _ => confined_pure _

end Suite

theorem Selection.quiet_select (separator : String) (patterns : List String) (cases : List Case) :
    Quiet IsInner (select separator patterns cases) :=
  (confined_ofFault _ isInner_fault).bind fun _ => (confined_log _ _ _).bind fun _ =>
    confined_pure _

/-! ## Runs -/

/-- Any failure at all. -/
def Failure.IsAny (_ : Failure) : Prop := True

theorem Session.Quiet.any {α : Type} {q : Failure → Prop} {x : Session α} (h : Quiet q x) :
    Quiet IsAny x :=
  h.mono (fun _ => id) fun _ _ => trivial

namespace Case

theorem quiet_callStep (role : Role) (step : Step) (bindings : Entries Value) :
    Quiet IsAny (callStep role step bindings) := by
  cases step with
  | stray v => exact confined_fail trivial
  | function apply =>
    unfold callStep
    dsimp only
    split
    · exact confined_fail trivial
    · exact confined_call _ _ _ fun _ => trivial

theorem quiet_compute (c : Case) : Quiet IsAny c.compute := by
  unfold compute
  split
  · exact confined_fail trivial
  · exact quiet_callStep _ _ _

theorem quiet_check (defaults : Config) (c : Case) (result : Value) :
    Quiet IsAny (c.check defaults result) := by
  unfold check
  split
  · exact confined_fail trivial
  · split
    · exact confined_fail trivial
    · refine (quiet_callStep _ _ _).bind fun verdict => ?_
      split
      · exact (confined_ofFault _ fun _ => trivial).bind fun shown => confined_fail trivial
      · exact confined_pure _

end Case

namespace Run

theorem quiet_ended (c : Case) (outcome : Outcome) (reason : String) (f : Failure)
    (start : Number.Binary64) : Quiet IsAny (ended c outcome reason f start) :=
  confined_now.bind fun _ => confined_pure _

theorem quiet_errored (defaults : Config) (c : Case) (stage : String) (f : Failure)
    (start : Number.Binary64) : Quiet IsAny (errored defaults c stage f start) := by
  unfold errored
  split
  · exact confined_fail trivial
  · refine (confined_ofFault _ fun _ => trivial).bind fun _ => ?_
    refine (confined_ofExcept fun _ _ => trivial).bind fun _ => ?_
    exact (confined_log _ _ _).bind fun _ => quiet_ended _ _ _ _ _

theorem quiet_failed (defaults : Config) (c : Case) (f : Failure) (start : Number.Binary64) :
    Quiet IsAny (failed defaults c f start) := by
  refine (confined_ofFault _ fun _ => trivial).bind fun _ => ?_
  refine (confined_ofExcept fun _ _ => trivial).bind fun _ => ?_
  exact (confined_log _ _ _).bind fun _ => quiet_ended _ _ _ _ _

theorem quiet_one (defaults : Config) (c : Case) : Quiet IsAny (one defaults c) := by
  refine confined_now.bind fun start => ?_
  refine (Case.quiet_compute c).attempt.bind fun computed => ?_
  cases computed with
  | error f => exact quiet_errored _ _ _ _ _
  | ok result =>
    refine (Case.quiet_check defaults c result).attempt.bind fun checked => ?_
    cases checked with
    | ok _ => exact confined_now.bind fun _ => confined_pure _
    | error f =>
      dsimp only
      split
      · exact quiet_failed _ _ _ _
      · exact quiet_errored _ _ _ _ _

theorem quiet_all (defaults : Config) (cases : List Case) : Quiet IsAny (all defaults cases) := by
  refine (confined_forEach fun c _ => quiet_one defaults c).bind fun results => ?_
  exact (confined_log _ _ _).bind fun _ => confined_pure _

end Run

theorem Suite.quiet_run (defaults : Config) (patterns : List String) (s : Suite) :
    Quiet IsAny (s.run defaults patterns) := by
  refine (quiet_cases defaults s).any.bind fun cases => ?_
  split
  · exact Run.quiet_all _ _
  · exact (Selection.quiet_select _ _ _).any.bind fun kept => Run.quiet_all _ _

namespace Command

/-- Making the suite of a target fails as loading the target does, or because of its scenarios. -/
theorem quiet_suiteOf (s : Surroundings) (target : String) :
    Quiet (fun f => s.load target = .error f ∨ f.IsInner) (suiteOf s target) := by
  refine (confined_ofExcept fun f hf => .inl hf).bind fun loaded => ?_
  exact (Suite.quiet_ofModule _ _ _ _).mono (fun _ => id) fun f => .inr

end Command

end CaseGrid
