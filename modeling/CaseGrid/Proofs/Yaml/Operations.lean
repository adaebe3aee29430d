import CaseGrid.Proofs.Yaml.Cells

/-
  How an operation of the builder ends, as a triple: from a state, with a result and a state that
  keeps an invariant, in which nothing that was built before is changed, or with trouble of which
  something holds. There is one rule for each way of putting operations together; what single
  operations lead to is said for each invariant where it is introduced.
-/

namespace CaseGrid.Yaml.Builder

variable {I J : DataState → Prop} {E F : Trouble → Prop} {s : DataState} {α β : Type}

/-- An operation ends with a result of which something holds, in a state of the invariant, nothing
that was built before being changed, or with trouble of which something holds. -/
def Leads (I : DataState → Prop) (E : Trouble → Prop) (s : DataState) (x : Builder α)
    (Q : α → DataState → Prop) : Prop :=
  match x.run s with
  | .ok (a, s') => I s' ∧ Stays s s' ∧ Q a s'
  | .error e => E e

namespace Leads

variable {x : Builder α} {f : α → Builder β} {Q R : α → DataState → Prop}

theorem of_ok {a : α} {s' : DataState} (h : x.run s = .ok (a, s')) (hs : I s')
    (hstays : Stays s s') (hQ : Q a s') : Leads I E s x Q := by
  rw [Leads, h]
  exact ⟨hs, hstays, hQ⟩

theorem of_error {e : Trouble} (h : x.run s = .error e) (he : E e) : Leads I E s x Q := by
  rw [Leads, h]
  exact he

theorem ok (h : Leads I E s x Q) {a : α} {s' : DataState} (hrun : x.run s = .ok (a, s')) :
    I s' ∧ Stays s s' ∧ Q a s' := by
  rw [Leads, hrun] at h
  exact h

theorem error (h : Leads I E s x Q) {e : Trouble} (hrun : x.run s = .error e) : E e := by
  rw [Leads, hrun] at h
  exact h

theorem pure (hs : I s) {a : α} (hQ : Q a s) : Leads I E s (pure a) Q :=
  .of_ok rfl hs (.refl s) hQ

theorem fail {e : Trouble} (he : E e) : Leads I E s (fail e) Q :=
  .of_error rfl he

/-- Another invariant, other trouble and another result, as far as they follow. -/
theorem weaken (h : Leads I E s x Q) {R : α → DataState → Prop}
    (hok : ∀ a s', I s' → Stays s s' → Q a s' → J s' ∧ R a s') (herror : ∀ e, E e → F e) :
    Leads J F s x R := by
  match hrun : x.run s with
  | .ok (a, s') =>
    obtain ⟨hs', hstays, hQ⟩ := h.ok hrun
    obtain ⟨hJ, hR⟩ := hok a s' hs' hstays hQ
    exact .of_ok hrun hJ hstays hR
  | .error e => exact .of_error hrun (herror e (h.error hrun))

theorem trouble (h : Leads I E s x Q) (herror : ∀ e, E e → F e) : Leads I F s x Q :=
  h.weaken (fun _ _ hs' _ hQ => ⟨hs', hQ⟩) herror

theorem imp (h : Leads I E s x Q) (hQR : ∀ a s', I s' → Stays s s' → Q a s' → R a s') :
    Leads I E s x R :=
  h.weaken (fun a s' hs' hstays hQ => ⟨hs', hQR a s' hs' hstays hQ⟩) fun _ he => he

theorem bind {R : β → DataState → Prop} (hx : Leads I E s x Q)
    (hf : ∀ a s', I s' → Stays s s' → Q a s' → Leads J E s' (f a) R) :
    Leads J E s (x >>= f) R := by
  match hrun : x.run s with
  | .ok (a, s₁) =>
    obtain ⟨hs₁, hstays, hQ⟩ := hx.ok hrun
    have hrest := hf a s₁ hs₁ hstays hQ
    have heq : (x >>= f).run s = (f a).run s₁ := by
      rw [StateT.run_bind, hrun]
      rfl
    match hrun' : (f a).run s₁ with
    | .ok (b, s₂) =>
      obtain ⟨hs₂, hstays', hR⟩ := hrest.ok hrun'
      exact .of_ok (heq.trans hrun') hs₂ (hstays.trans hstays') hR
    | .error e => exact .of_error (heq.trans hrun') (hrest.error hrun')
  | .error e =>
    refine .of_error (e := e) ?_ (hx.error hrun)
    rw [StateT.run_bind, hrun]
    rfl

/-- An outcome without effect. -/
theorem lift (hs : I s) {y : Except Trouble α} (hok : ∀ a, y = .ok a → Q a s)
    (herror : ∀ e, y = .error e → E e) : Leads I E s (StateT.lift y) Q := by
  cases y with
  | ok a => exact .of_ok rfl hs (.refl s) (hok a rfl)
  | error e => exact .of_error rfl (herror e rfl)

/-! ### What comes first -/

theorem get_bind {f : DataState → Builder β} {R : β → DataState → Prop}
    (h : Leads I E s (f s) R) : Leads I E s (get >>= f) R := h

theorem node_bind {i : Nat} {f : Node → Builder β} {R : β → DataState → Prop}
    (h : Leads I E s (f (s.nodes.node i)) R) : Leads I E s (node i >>= f) R := h

theorem cell?_bind {i : Nat} {f : Option Cell → Builder β} {R : β → DataState → Prop}
    (h : Leads I E s (f (s.cell? i)) R) : Leads I E s (cell? i >>= f) R := h

theorem lift_bind {y : Except Trouble α} {f : α → Builder β} {R : β → DataState → Prop}
    (herror : ∀ e, y = .error e → E e) (hok : ∀ a, y = .ok a → Leads I E s (f a) R) :
    Leads I E s (StateT.lift y >>= f) R := by
  cases y with
  | ok a => exact hok a rfl
  | error e => exact .of_error rfl (herror e rfl)

theorem set_bind {s' : DataState} {f : PUnit → Builder β} {R : β → DataState → Prop}
    (hstays : Stays s s') (h : Leads I E s' (f ⟨⟩) R) : Leads I E s (set s' >>= f) R := by
  have hset : Leads (fun _ => True) E s (set s') fun _ s₁ => s₁ = s' :=
    .of_ok rfl trivial hstays rfl
  refine hset.bind ?_
  rintro _ s₁ - - rfl
  exact h

end Leads

end CaseGrid.Yaml.Builder
