import CaseGrid.Session
import Mathlib.Data.List.Forall2

/-
  How operations end. An operation that passes through several items ends well only if it does on
  every one of them, and then has one result for each. An operation is steady if nothing that was
  left behind before it, the clock and the calls and the log, reaches what it ends with or which
  calls it makes; operations put together from steady ones are steady. An operation is confined to
  some lines and some failures if it prints only these and fails only with these, and quiet if it
  prints nothing at all; operations put together from such ones are such themselves.
-/

namespace CaseGrid

namespace Session

/-! ## Operations on several items -/

/-- An operation on each item ends well only if it does on every one of them. -/
theorem forEach_eq_ok {α β : Type} {f : α → Session β} {as : List α} {bs : List β}
    {t t' : Trace} (h : forEach f as t = (.ok bs, t')) :
    List.Forall₂ (fun a b => ∃ t₁ t₂, f a t₁ = (.ok b, t₂)) as bs := by
  induction as generalizing bs t with
  | nil =>
    cases h
    exact .nil
  | cons a as ih =>
    obtain ⟨b, t₁, hb, h⟩ := bind_eq_ok h
    obtain ⟨cs, t₂, hcs, h⟩ := bind_eq_ok h
    cases h
    exact .cons ⟨t, t₁, hb⟩ (ih hcs)

theorem forEach_cons {α β : Type} (f : α → Session β) (a : α) (as : List α) :
    forEach f (a :: as) = f a >>= fun b => forEach f as >>= fun bs => pure (b :: bs) := rfl

theorem exists_forEach_eq_ok {α β : Type} {f : α → Session β} {as : List α}
    (h : ∀ a ∈ as, ∀ t, ∃ b t', f a t = (.ok b, t')) (t : Trace) :
    ∃ bs t', forEach f as t = (.ok bs, t') := by
  induction as generalizing t with
  | nil => exact ⟨[], t, rfl⟩
  | cons a as ih =>
    obtain ⟨b, t₁, hb⟩ := h a List.mem_cons_self t
    obtain ⟨bs, t₂, hbs⟩ := ih (fun c hc => h c (.tail _ hc)) t₁
    refine ⟨b :: bs, t₂, ?_⟩
    rw [forEach_cons, bind_run_ok hb, bind_run_ok hbs]
    rfl

/-- An operation that ends well and leaves nothing behind. -/
def Silent {α : Type} (x : Session α) : Prop :=
  ∃ a, ∀ t, x t = (.ok a, t)

theorem silent_forEach {α β : Type} {f : α → Session β} {as : List α}
    (h : ∀ a ∈ as, Silent (f a)) : Silent (forEach f as) := by
  induction as with
  | nil => exact ⟨[], fun _ => rfl⟩
  | cons a as ih =>
    obtain ⟨b, hb⟩ := h a List.mem_cons_self
    obtain ⟨bs, hbs⟩ := ih fun c hc => h c (.tail _ hc)
    refine ⟨b :: bs, fun t => ?_⟩
    rw [forEach_cons, bind_run_ok (hb t), bind_run_ok (hbs t)]
    rfl

/-- After operations that leave nothing behind, all end as the first one that fails. -/
theorem forEach_of_first {α β : Type} {f : α → Session β} {before after : List α} {a : α}
    {e : Failure} {t t' : Trace} (hbefore : ∀ b ∈ before, Silent (f b))
    (ha : f a t = (.error e, t')) : forEach f (before ++ a :: after) t = (.error e, t') := by
  induction before with
  | nil => exact bind_run_error ha
  | cons b before ih =>
    obtain ⟨c, hc⟩ := hbefore b List.mem_cons_self
    rw [List.cons_append, forEach_cons, bind_run_ok (hc t)]
    exact bind_run_error (ih fun d hd => hbefore d (.tail _ hd))

/-! ## Operations that do not look back -/

/-- An operation that ends the same whatever happened before, and adds the same calls. -/
def Steady {α : Type} (x : Session α) (outcome : Except Failure α) (made : List Call) : Prop :=
  ∀ t, (x t).1 = outcome ∧ (x t).2.calls = t.calls ++ made

theorem steady_ofExcept {α : Type} (outcome : Except Failure α) :
    Steady (ofExcept outcome) outcome [] :=
  fun t => ⟨rfl, (List.append_nil t.calls).symm⟩

theorem steady_fail {α : Type} (f : Failure) : Steady (fail f : Session α) (.error f) [] :=
  steady_ofExcept (.error f)

theorem steady_pure {α : Type} (a : α) : Steady (pure a : Session α) (.ok a) [] :=
  steady_ofExcept (.ok a)

theorem steady_call (role : Role) (apply : Arguments → Reply) (arguments : Arguments) :
    Steady (call role apply arguments) (apply arguments).outcome [⟨role, arguments⟩] :=
  fun _ => ⟨rfl, rfl⟩

section Bind

variable {α β : Type} {x : Session α} {f : α → Session β} {made more : List Call}

theorem Steady.bind {a : α} {outcome : Except Failure β} (hx : Steady x (.ok a) made)
    (hf : Steady (f a) outcome more) : Steady (x >>= f) outcome (made ++ more) := by
  intro t
  obtain ⟨ha, hcalls⟩ := hx t
  have hrun : x t = (.ok a, (x t).2) := Prod.ext ha rfl
  obtain ⟨hend, hcalls'⟩ := hf (x t).2
  rw [bind_run_ok hrun, hcalls', hcalls, List.append_assoc]
  exact ⟨hend, rfl⟩

theorem Steady.bind_error {e : Failure} (hx : Steady x (.error e) made) :
    Steady (x >>= f) (.error e) made := by
  intro t
  obtain ⟨he, hcalls⟩ := hx t
  have hrun : x t = (.error e, (x t).2) := Prod.ext he rfl
  rw [bind_run_error hrun]
  exact ⟨rfl, hcalls⟩

end Bind

/-- A steady operation on each item, without calls, is steady on all of them. -/
theorem steady_forEach {α β : Type} {f : α → Session β} {as : List α} {bs : List β}
    (h : List.Forall₂ (fun a b => Steady (f a) (.ok b) []) as bs) :
    Steady (forEach f as) (.ok bs) [] := by
  induction h with
  | nil => exact steady_pure []
  | @cons a b as bs ha _ ih =>
    rw [forEach_cons]
    exact ha.bind (ih.bind (steady_pure (b :: bs)))

/-- What a steady operation ends with, wherever it starts. -/
theorem Steady.run_ok {α : Type} {x : Session α} {a : α} {made : List Call}
    (h : Steady x (.ok a) made) (t : Trace) : x t = (.ok a, (x t).2) :=
  Prod.ext (h t).1 rfl

/-! ## What operations print and how they fail -/

/-- An operation that prints lines of some kind only, and fails with failures of some kind only. -/
def Confined {α : Type} (p : String → Prop) (q : Failure → Prop) (x : Session α) : Prop :=
  ∀ t, (∃ lines, (x t).2.printed = t.printed ++ lines ∧ ∀ line ∈ lines, p line) ∧
    ∀ f, (x t).1 = .error f → q f

/-- An operation that prints nothing, and fails with failures of some kind only. -/
def Quiet {α : Type} (q : Failure → Prop) (x : Session α) : Prop :=
  Confined (fun _ => False) q x

section Confined

variable {α β : Type} {p p' : String → Prop} {q q' : Failure → Prop} {x : Session α}

theorem Confined.mono (h : Confined p q x) (hp : ∀ line, p line → p' line)
    (hq : ∀ f, q f → q' f) : Confined p' q' x := by
  intro t
  obtain ⟨⟨lines, hlines, hkind⟩, hfails⟩ := h t
  exact ⟨⟨lines, hlines, fun line hline => hp line (hkind line hline)⟩,
    fun f hf => hq f (hfails f hf)⟩

theorem Quiet.confined (h : Quiet q x) : Confined p q x :=
  h.mono (fun _ => False.elim) fun _ => id

theorem Quiet.printed (h : Quiet q x) (t : Trace) : (x t).2.printed = t.printed := by
  obtain ⟨⟨lines, hlines, hnone⟩, -⟩ := h t
  rw [hlines, List.eq_nil_iff_forall_not_mem.mpr hnone, List.append_nil]

/-- Where nothing is printed, only the failures matter. -/
theorem confined_of_same (hsame : ∀ t, (x t).2.printed = t.printed)
    (hq : ∀ t f, (x t).1 = .error f → q f) : Confined p q x :=
  fun t => ⟨⟨[], by rw [hsame t, List.append_nil], by simp⟩, hq t⟩

theorem confined_ofExcept {outcome : Except Failure α} (h : ∀ f, outcome = .error f → q f) :
    Confined p q (ofExcept outcome) :=
  confined_of_same (fun _ => rfl) fun _ => h

theorem confined_pure (a : α) : Confined p q (pure a : Session α) :=
  confined_of_same (fun _ => rfl) nofun

theorem confined_fail {f : Failure} (h : q f) : Confined p q (fail f : Session α) :=
  confined_of_same (fun _ => rfl) fun _ _ hf => Except.error.inj hf ▸ h

theorem confined_ofFault (outcome : Except Fault α) (h : ∀ e, q (.fault e)) :
    Confined p q (ofFault outcome) := by
  cases outcome with
  | ok a => exact confined_pure a
  | error e => exact confined_fail (h e)

theorem confined_now : Confined p q now :=
  confined_of_same (fun _ => rfl) nofun

theorem confined_log (level : Int) (logger message : String) :
    Confined p q (log level logger message) :=
  confined_of_same (fun _ => rfl) nofun

theorem confined_call (role : Role) (apply : Arguments → Reply) (arguments : Arguments)
    (h : ∀ f, q f) : Confined p q (call role apply arguments) :=
  confined_of_same (fun _ => rfl) fun _ f _ => h f

theorem confined_print {line : String} (h : p line) : Confined p q (print line) :=
  fun _ => ⟨⟨[line], rfl, by simpa using h⟩, nofun⟩

/-- What follows an operation matters for its results only. -/
theorem Confined.bind_of_ok {f : α → Session β} (hx : Confined p q x)
    (hf : ∀ a t t', x t = (.ok a, t') → Confined p q (f a)) : Confined p q (x >>= f) := by
  intro t
  obtain ⟨⟨lines, hlines, hkind⟩, hfails⟩ := hx t
  match hrun : x t with
  | (.error e, t') =>
    rw [hrun] at hlines hfails
    rw [bind_run_error hrun]
    refine ⟨⟨lines, hlines, hkind⟩, ?_⟩
    rintro g ⟨⟩
    exact hfails e rfl
  | (.ok a, t') =>
    rw [hrun] at hlines
    obtain ⟨⟨more, hmore, hkind'⟩, hfails'⟩ := hf a t t' hrun t'
    rw [bind_run_ok hrun, hmore, hlines, List.append_assoc]
    exact ⟨⟨lines ++ more, rfl, fun line hline => (List.mem_append.mp hline).elim
      (hkind line) (hkind' line)⟩, hfails'⟩

theorem Confined.bind {f : α → Session β} (hx : Confined p q x) (hf : ∀ a, Confined p q (f a)) :
    Confined p q (x >>= f) :=
  hx.bind_of_ok fun a _ _ _ => hf a

theorem Confined.attempt (hx : Confined p q x) : Confined p q' (attempt x) :=
  fun t => ⟨(hx t).1, nofun⟩

theorem confined_forEach {f : α → Session β} {as : List α} (h : ∀ a ∈ as, Confined p q (f a)) :
    Confined p q (forEach f as) := by
  induction as with
  | nil => exact confined_pure []
  | cons a as ih =>
    rw [forEach_cons]
    refine (h a List.mem_cons_self).bind fun b => ?_
    exact (ih fun c hc => h c (.tail _ hc)).bind fun bs => confined_pure (b :: bs)

end Confined

end Session

end CaseGrid
