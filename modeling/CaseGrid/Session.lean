import CaseGrid.Log.Level
import CaseGrid.Scenario.Step

/-
  Sessions: operations that call steps, let time pass, write log records and print lines. What
  they leave behind is a trace, and a failed operation leaves the trace of what it did before.
  The clock shows seconds and is moved by steps only. Every wait moves it to the double nearest to
  the sum, so that a short wait can be lost after a very long one.
-/

namespace CaseGrid

open CaseGrid.Number (Binary64)

/-- A call of a step, the arguments in the order passed. -/
structure Call where
  role : Role
  arguments : Arguments
  deriving Repr

/-- What has happened so far. -/
structure Trace where
  clock : Binary64 := Binary64.zero false
  calls : List Call := []
  records : List Log.Record := []
  /-- The least level of the records that are of interest. -/
  level : Int := Log.info
  /-- The lines that were printed. -/
  printed : List String := []
  /-- The lines that were printed as complaints. -/
  complaints : List String := []
  deriving Repr, Inhabited

/-- An operation on a trace that ends with a result or a failure. -/
def Session (α : Type) : Type :=
  Trace → Except Failure α × Trace

namespace Session

/-- The operation that does nothing and ends with a result. -/
protected def pure {α : Type} (a : α) : Session α :=
  fun t => (.ok a, t)

/-- One operation after the other; a failure ends both. -/
protected def bind {α β : Type} (x : Session α) (f : α → Session β) : Session β :=
  fun t =>
    match x t with
    | (.ok a, t') => f a t'
    | (.error e, t') => (.error e, t')

instance : Monad Session where
  pure := Session.pure
  bind := Session.bind

theorem pure_run {α : Type} (a : α) (t : Trace) : (pure a : Session α) t = (.ok a, t) := rfl

theorem bind_run {α β : Type} (x : Session α) (f : α → Session β) (t : Trace) :
    (x >>= f) t =
      match x t with
      | (.ok a, t') => f a t'
      | (.error e, t') => (.error e, t') := rfl

theorem bind_run_ok {α β : Type} {x : Session α} {f : α → Session β} {t t' : Trace} {a : α}
    (h : x t = (.ok a, t')) : (x >>= f) t = f a t' := by
  rw [bind_run, h]

theorem bind_run_error {α β : Type} {x : Session α} {f : α → Session β} {t t' : Trace}
    {e : Failure} (h : x t = (.error e, t')) : (x >>= f) t = (.error e, t') := by
  rw [bind_run, h]

theorem bind_eq_ok {α β : Type} {x : Session α} {f : α → Session β} {b : β} {t t' : Trace}
    (h : (x >>= f) t = (.ok b, t')) : ∃ a t₁, x t = (.ok a, t₁) ∧ f a t₁ = (.ok b, t') := by
  rw [bind_run] at h
  match hx : x t with
  | (.ok a, t₁) =>
    rw [hx] at h
    exact ⟨a, t₁, rfl, h⟩
  | (.error e, t₁) =>
    rw [hx] at h
    cases h

/-- Sessions keep the laws of operations one after the other. -/
instance : LawfulMonad Session := by
  refine LawfulMonad.mk' Session ?_ ?_ ?_
  · intro α x
    funext t
    show (match x t with
      | (.ok a, t') => ((.ok a, t') : Except Failure α × Trace)
      | (.error e, t') => (.error e, t')) = x t
    match x t with
    | (.ok _, _) => rfl
    | (.error _, _) => rfl
  · intro α β a f
    rfl
  · intro α β γ x f g
    funext t
    simp only [bind_run]
    match x t with
    | (.ok _, _) => rfl
    | (.error _, _) => rfl

/-- The operation that ends with a failure. -/
def fail {α : Type} (f : Failure) : Session α :=
  fun t => (.error f, t)

/-- An outcome without effect as an operation. -/
def ofExcept {α : Type} (x : Except Failure α) : Session α :=
  fun t => (x, t)

/-- An outcome that may be a fault as an operation. -/
def ofFault {α : Type} (x : Except Fault α) : Session α :=
  fun t => (x.mapError Failure.fault, t)

theorem ofFault_eq_ok {α : Type} {x : Except Fault α} {a : α} {t t' : Trace}
    (h : ofFault x t = (.ok a, t')) : x = .ok a ∧ t' = t := by
  cases x with
  | error e => cases h
  | ok b =>
    cases h
    exact ⟨rfl, rfl⟩

/-- An operation with its failure as a result. -/
def attempt {α : Type} (x : Session α) : Session (Except Failure α) :=
  fun t =>
    let (outcome, t') := x t
    (.ok outcome, t')

theorem attempt_run {α : Type} {x : Session α} {t t' : Trace} {outcome : Except Failure α}
    (h : x t = (outcome, t')) : attempt x t = (.ok outcome, t') := by
  rw [attempt, h]

/-- The present state of the clock. -/
def now : Session Binary64 :=
  fun t => (.ok t.clock, t)

theorem now_run (t : Trace) : now t = (.ok t.clock, t) := rfl

/-- Writes a log record. -/
def log (level : Int) (logger message : String) : Session Unit :=
  fun t => (.ok (), { t with
    records := t.records ++ [{ level := .number level, logger := logger, message := message }] })

theorem log_run (level : Int) (logger message : String) (t : Trace) :
    log level logger message t = (.ok (), (log level logger message t).2) := rfl

/-- Sets the least level of the records that are of interest. -/
def setLevel (level : Int) : Session Unit :=
  fun t => (.ok (), { t with level := level })

/-- Prints a line. -/
def print (line : String) : Session Unit :=
  fun t => (.ok (), { t with printed := t.printed ++ [line] })

theorem print_run (line : String) (t : Trace) : print line t = (.ok (), (print line t).2) := rfl

/-- Prints a line as a complaint. -/
def complain (line : String) : Session Unit :=
  fun t => (.ok (), { t with complaints := t.complaints ++ [line] })

/-- Leaves the program with a status. -/
def leave {α : Type} (status : Int) : Session α :=
  fail (.raised .systemExit [.int status])

/-- Calls a step function: the call is recorded, time passes, and the step ends. -/
def call (role : Role) (apply : Arguments → Reply) (arguments : Arguments) : Session Value :=
  fun t =>
    let reply := apply arguments
    (reply.outcome, { t with
      clock := reply.waits.foldl Binary64.add t.clock
      calls := t.calls ++ [⟨role, arguments⟩] })

/-- One operation for each item, in order; a failure ends all. -/
def forEach {α β : Type} (f : α → Session β) : List α → Session (List β)
  | [] => Session.pure []
  | a :: as => Session.bind (f a) fun b => Session.bind (forEach f as) fun bs => .pure (b :: bs)

end Session

end CaseGrid
