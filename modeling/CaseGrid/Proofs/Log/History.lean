import CaseGrid.Proofs.Except
import CaseGrid.Proofs.Log.Linking

/-
  What any history of the log leaves behind, the steps that fail included. One lemma for each
  operation says all it can do (`setup_cases`, `give_eq`, `setGlobal_cases`); from them one step
  keeps a registry settled (`Settled.step`), and so does a whole history (`settled_after`).

  A settled registry is configured just if it has a handler, which is the only one; that handler has
  the level of the program's logger or none. One that is not configured has nothing left of an
  earlier configuration but its loggers.
-/

namespace CaseGrid.Log

/-- What a program does with its log. Meanwhile its surroundings may name another level. -/
inductive Action where
  | setup (level : Value) (template : String) (sink : Sink)
  | give (name : String)
  | setGlobal (level : Value)
  | debugOn
  | debugOff
  | reset
  | surround (named : Option String)

namespace Registry

open Logger (ancestors beside)

/-- The registry that an action leaves, also where it fails. -/
def step (g : Registry) : Action → Registry
  | .setup level template sink => (setup level template sink g).2
  | .give name => (give name g).2
  | .setGlobal level => (setGlobal level g).2
  | .debugOn => (setGlobal (.int debug) g).2
  | .debugOff => (setGlobal (.int info) g).2
  | .reset => g.reset
  | .surround named => (setEnvironment named g).2

/-- The registry that some actions leave, one after the other. -/
def after (actions : List Action) (g : Registry) : Registry :=
  actions.foldl step g

/-- The registry with which a program begins, where the logger above all has a level and the
surroundings name one. -/
def imported (rootLevel : Severity) (named : Option String) : Registry :=
  { start with rootLevel := rootLevel, environment := named }.prepared

/-- Configured with one handler, or not configured and without one. -/
structure Settled (g : Registry) : Prop where
  linked : Linked g.loggers
  configured : g.configured = true →
    ∃ h, g.handlers = [h] ∧ (h.level = .unset ∨ h.level = g.level program)
  bare : g.configured = false → g.handlers = [] ∧ g.level program = .unset

section

variable {g : Registry} {name n : String} {t : Severity}

/-! ## Loggers and their levels -/

theorem isSome_logger?_iff : (g.logger? n).isSome = true ↔ Known g.loggers n := by
  rw [logger?, List.find?_isSome]
  simp [Known]

theorem isKnown_iff (hown : IsOwn n) : g.isKnown n = true ↔ Known g.loggers n := by
  rw [isKnown, hown.isRoot_eq_false, Bool.false_or, isSome_logger?_iff]

theorem withLogger_of_known (hown : IsOwn name) (h : Known g.loggers name) :
    g.withLogger name = g := by
  rw [withLogger, if_pos ((isKnown_iff hown).mpr h)]

theorem withLogger_of_new (hown : IsOwn name) (h : ¬ Known g.loggers name) :
    g.withLogger name = { g with loggers := g.loggers.map (beside name) ++
      [⟨name, .unset, (ancestors name).find? fun n => (g.logger? n).isSome⟩] } := by
  rw [withLogger, if_neg (mt (isKnown_iff hown).mp h)]

/-- Making a logger leaves the names and the levels of the others. -/
theorem exists_of_mem_withLogger (hown : IsOwn name) {l : Logger} (hl : l ∈ g.loggers) :
    ∃ m ∈ (g.withLogger name).loggers, m.name = l.name ∧ m.level = l.level := by
  by_cases h : Known g.loggers name
  · rw [withLogger_of_known hown h]
    exact ⟨l, hl, rfl, rfl⟩
  · rw [withLogger_of_new hown h]
    exact ⟨beside name l, List.mem_append_left _ (List.mem_map_of_mem hl), name_beside name l,
      level_beside name l⟩

theorem known_withLogger (hown : IsOwn name) : Known (g.withLogger name).loggers name := by
  by_cases h : Known g.loggers name
  · rw [withLogger_of_known hown h]
    exact h
  · rw [withLogger_of_new hown h]
    exact ⟨_, List.mem_append_right _ List.mem_cons_self, rfl⟩

theorem linked_withLogger (h : Linked g.loggers) (hown : IsOwn name) :
    Linked (g.withLogger name).loggers := by
  by_cases hk : Known g.loggers name
  · rw [withLogger_of_known hown hk]
    exact h
  · rw [withLogger_of_new hown hk]
    exact @Linked.add _ h ⟨name, .unset, _⟩ hown hk
      (nearest_find? (fun _ => isSome_logger?_iff) name) rfl

/-- The level of a logger is set in the list of loggers, and nowhere else. -/
theorem setLevel_eq (hown : IsOwn name) (t : Severity) :
    ∃ ls, g.setLevel name t = { g with loggers := ls } ∧
      ls = (g.withLogger name).loggers.map (setLevelOf name t) := by
  refine ⟨_, ?_, rfl⟩
  rw [setLevel, hown.isRoot_eq_false, if_neg Bool.false_ne_true]
  by_cases h : Known g.loggers name
  · rw [withLogger_of_known hown h]
    rfl
  · rw [withLogger_of_new hown h]
    rfl

theorem handlers_setLevel (hown : IsOwn name) (t : Severity) :
    (g.setLevel name t).handlers = g.handlers := by
  obtain ⟨ls, heq, -⟩ := setLevel_eq (g := g) hown t
  rw [heq]

theorem configured_setLevel (hown : IsOwn name) (t : Severity) :
    (g.setLevel name t).configured = g.configured := by
  obtain ⟨ls, heq, -⟩ := setLevel_eq (g := g) hown t
  rw [heq]

theorem linked_setLevel (h : Linked g.loggers) (hown : IsOwn name)
    (ht : name = program ∨ t = .unset) : Linked (g.setLevel name t).loggers := by
  obtain ⟨ls, heq, rfl⟩ := setLevel_eq (g := g) hown t
  rw [heq]
  exact (linked_withLogger h hown).map_setLevelOf ht

theorem logger?_of_mem (h : Linked g.loggers) {l : Logger} (hl : l ∈ g.loggers) :
    g.logger? l.name = some l := by
  rw [logger?]
  match hm : g.loggers.find? fun m => m.name == l.name with
  | none => exact absurd (beq_self_eq_true _) (List.find?_eq_none.mp hm l hl)
  | some m =>
    have hname : m.name = l.name := by simpa using List.find?_some hm
    exact hm.trans (congrArg some
      (List.inj_on_of_nodup_map h.distinct (List.mem_of_find?_eq_some hm) hl hname))

theorem level_of_mem (h : Linked g.loggers) {l : Logger} (hl : l ∈ g.loggers) :
    g.level l.name = l.level := by
  rw [level, (h.own l hl).isRoot_eq_false, if_neg Bool.false_ne_true, logger?_of_mem h hl]
  rfl

theorem level_eq_unset (h : Linked g.loggers) (hown : IsOwn n) (hne : n ≠ program) :
    g.level n = .unset := by
  by_cases hk : Known g.loggers n
  · obtain ⟨l, hl, rfl⟩ := hk
    rw [level_of_mem h hl, h.level l hl hne]
  · have hnone : g.logger? n = none := by
      rw [← Option.not_isSome_iff_eq_none, isSome_logger?_iff]
      exact hk
    rw [level, hown.isRoot_eq_false, if_neg Bool.false_ne_true, hnone]
    rfl

theorem level_setLevel_self (h : Linked g.loggers) (hown : IsOwn name)
    (ht : name = program ∨ t = .unset) : (g.setLevel name t).level name = t := by
  have hlinked := linked_setLevel h hown ht
  obtain ⟨ls, heq, rfl⟩ := setLevel_eq (g := g) hown t
  rw [heq] at hlinked ⊢
  obtain ⟨l, hl, hname⟩ := known_withLogger (g := g) hown
  have hset : setLevelOf name t l = { l with level := t } := by
    rw [setLevelOf, if_pos hname]
  have := level_of_mem hlinked (List.mem_map_of_mem hl)
  rw [name_setLevelOf, hname, hset] at this
  exact this

theorem level_program_setLevel (h : Linked g.loggers) (hown : IsOwn name) (hne : name ≠ program) :
    (g.setLevel name .unset).level program = g.level program := by
  have hlinked := linked_setLevel h hown (t := .unset) (.inr rfl)
  obtain ⟨ls, heq, rfl⟩ := setLevel_eq (g := g) hown .unset
  rw [heq] at hlinked ⊢
  obtain ⟨l, hl, hname⟩ := h.ofProgram
  obtain ⟨m, hm, hmname, hmlevel⟩ := exists_of_mem_withLogger hown hl
  have hset : setLevelOf name .unset m = m := by
    rw [setLevelOf, if_neg]
    rw [hmname, hname]
    exact fun heq => hne heq.symm
  have hlevel := level_of_mem hlinked (List.mem_map_of_mem hm)
  rw [hset, hmname, hname, hmlevel, ← level_of_mem h hl, hname] at hlevel
  exact hlevel

/-! ## What the operations can do -/

/-- Writing to a logger that exists adds to what was kept and seen, and changes nothing else. -/
theorem write_eq {r : Record} (hown : IsOwn r.logger) (h : Known g.loggers r.logger) :
    ∃ ks rs, (write r g).2 = { g with handled := ks, watched := rs } := by
  simp only [write, withLogger_of_known hown h]
  split
  · split
    · exact ⟨_, _, rfl⟩
    · exact ⟨g.handled, g.watched, rfl⟩
  · exact ⟨g.handled, g.watched, rfl⟩

theorem environmentLevel_eq (h : Known g.loggers program) :
    ∃ ks rs, (environmentLevel g).2 = { g with handled := ks, watched := rs } := by
  rw [environmentLevel]
  split
  · exact ⟨g.handled, g.watched, rfl⟩
  · split
    · exact ⟨g.handled, g.watched, rfl⟩
    · exact write_eq (r := ignoredLevel _) (.inl rfl) h

theorem namedLevel_null (g : Registry) : namedLevel .null g = environmentLevel g := by
  rw [namedLevel]

theorem namedLevel_of_ne_null {level : Value} (h : level ≠ .null) (g : Registry) :
    namedLevel level g = (Severity.ofValue level, g) := by
  unfold namedLevel
  split
  · exact absurd rfl h
  · rfl

theorem namedLevel_eq (level : Value) (h : Known g.loggers program) :
    ∃ ks rs, (namedLevel level g).2 = { g with handled := ks, watched := rs } := by
  by_cases hnull : level = .null
  · rw [hnull, namedLevel_null]
    exact environmentLevel_eq h
  · rw [namedLevel_of_ne_null hnull]
    exact ⟨g.handled, g.watched, rfl⟩

/-- The registry in which a handler was installed, with what was kept and seen since. -/
def installed (g : Registry) (text : String) (sink : Sink) (ks : List Kept)
    (rs : List Record) : Registry :=
  { g with handlers := [⟨.unset, text, sink⟩], configured := true, handled := ks, watched := rs }

theorem setup_of_configured (level : Value) (template : String) (sink : Sink)
    (h : g.configured = true) : setup level template sink g = (.ok (), g) := by
  rw [setup, if_pos h]

theorem setup_of_refused {template : String} {f : Failure} (level : Value) (sink : Sink)
    (h : g.configured = false) (hcheck : Template.check template = .error f) :
    setup level template sink g = (.error f, g) := by
  rw [setup, h, if_neg Bool.false_ne_true, hcheck]

/-- With a template the handler comes first, and the level after it. -/
theorem setup_of_checked {template text : String} (level : Value) (sink : Sink)
    (h : g.configured = false) (hcheck : Template.check template = .ok text) :
    setup level template sink g =
      let named := namedLevel level (g.installed text sink g.handled g.watched)
      match named.1 with
      | .error f => (.error f, named.2)
      | .ok t => (.ok (), named.2.setLevel program t) := by
  rw [setup, h, if_neg Bool.false_ne_true, hcheck]
  rfl

/--
What an installation can do: nothing, where one was done before; fail at its template, and change
nothing; install a handler, and then fail at the level or set it.
-/
theorem setup_cases (level : Value) (template : String) (sink : Sink)
    (h : Known g.loggers program) :
    (g.configured = true ∧ setup level template sink g = (.ok (), g)) ∨
    (g.configured = false ∧ ∃ f, Template.check template = .error f ∧
      setup level template sink g = (.error f, g)) ∨
    (g.configured = false ∧ ∃ text ks rs, Template.check template = .ok text ∧
      ((∃ f, setup level template sink g = (.error f, g.installed text sink ks rs)) ∨
        ∃ t, setup level template sink g =
          (.ok (), (g.installed text sink ks rs).setLevel program t))) := by
  cases hconfigured : g.configured with
  | true => exact .inl ⟨rfl, setup_of_configured level template sink hconfigured⟩
  | false =>
    right
    match hcheck : Template.check template with
    | .error f => exact .inl ⟨rfl, f, rfl, setup_of_refused level sink hconfigured hcheck⟩
    | .ok text =>
      have hinstalled : Known (g.installed text sink g.handled g.watched).loggers program := h
      obtain ⟨ks, rs, heq⟩ := namedLevel_eq level hinstalled
      refine .inr ⟨rfl, text, ks, rs, rfl, ?_⟩
      rw [setup_of_checked level sink hconfigured hcheck]
      dsimp only
      rw [heq]
      split
      · rename_i f _
        exact .inl ⟨f, rfl⟩
      · rename_i t _
        exact .inr ⟨t, rfl⟩

/-! ## The usual installation -/

theorem isOwn_program : IsOwn program := .inl rfl

theorem exists_kept_of_console (h : ∀ d ∈ g.handlers, d.sink = .console) (name : String)
    (r : Record) : ∃ ks, g.kept name r = .ok ks := by
  have hreceivers : ∀ d ∈ g.receivers name r.level, d.sink = .console := by
    intro d hd
    rw [receivers] at hd
    split at hd
    · exact h d (List.mem_of_mem_filter hd)
    · cases hd
  obtain ⟨ks, hks⟩ := exists_mapM_eq_ok (f := fun (d : Handler) => d.keep r) fun d hd =>
    ⟨[], by rw [Handler.keep, hreceivers d hd]⟩
  exact ⟨ks.flatten, by rw [kept, hks]; rfl⟩

theorem write_of_console {r : Record} (hown : IsOwn r.logger) (hknown : Known g.loggers r.logger)
    (h : ∀ d ∈ g.handlers, d.sink = .console) : (write r g).1 = .ok () := by
  simp only [write, withLogger_of_known hown hknown]
  split
  · split
    · rfl
    · rename_i f hf
      obtain ⟨ks, hks⟩ := exists_kept_of_console h r.logger { r with logger := writtenName r.logger }
      rw [hks] at hf
      cases hf
  · rfl

/-- A name in the surroundings that is none of a level is reported without failing. -/
theorem exists_environmentLevel_of_console (hprogram : Known g.loggers program)
    (h : ∀ d ∈ g.handlers, d.sink = .console) : ∃ t, (environmentLevel g).1 = .ok t := by
  rw [environmentLevel]
  split
  · exact ⟨_, rfl⟩
  · split
    · exact ⟨_, rfl⟩
    · have hwrite := write_of_console (r := ignoredLevel (Text.trim (g.environment.getD "")))
        isOwn_program hprogram h
      refine ⟨.number info, ?_⟩
      dsimp only
      rw [hwrite]
      rfl

/-- The usual installation never fails: it does nothing, or installs a handler and sets a level. -/
theorem prepared_cases (h : Known g.loggers program) :
    ((setup .null "" .console g).1 = .ok ()) ∧
    ((g.configured = true ∧ g.prepared = g) ∨
      (g.configured = false ∧ ∃ ks rs t, g.prepared =
        (g.installed Template.standard .console ks rs).setLevel program t)) := by
  have hcheck : Template.check "" = .ok Template.standard := rfl
  rcases setup_cases .null "" .console h with
    ⟨hc, heq⟩ | ⟨hc, f, hf, -⟩ | ⟨hc, text, ks, rs, htext, ⟨f, heq⟩ | ⟨t, heq⟩⟩
  · exact ⟨by rw [heq], .inl ⟨hc, by rw [prepared, heq]⟩⟩
  · rw [hcheck] at hf
    cases hf
  · exfalso
    obtain ⟨t, ht⟩ := exists_environmentLevel_of_console
      (g := g.installed Template.standard .console g.handled g.watched) h
      (by rintro d hd; rw [List.mem_singleton.mp hd])
    rw [setup_of_checked .null .console hc hcheck, namedLevel_null] at heq
    dsimp only at heq
    rw [ht] at heq
    cases heq
  · rw [hcheck] at htext
    cases htext
    exact ⟨by rw [heq], .inr ⟨hc, ks, rs, t, by rw [prepared, heq]⟩⟩

/-! ## A history keeps a registry settled -/

theorem Settled.configured_iff_length (h : g.Settled) :
    g.configured = true ↔ g.handlers.length = 1 := by
  cases hconfigured : g.configured with
  | false =>
    rw [(h.bare hconfigured).1]
    exact iff_of_false nofun nofun
  | true =>
    obtain ⟨d, hd, -⟩ := h.configured hconfigured
    rw [hd]
    exact iff_of_true rfl rfl

theorem Settled.level_of_mem_handlers (h : g.Settled) {d : Handler} (hd : d ∈ g.handlers) :
    d.level = .unset ∨ d.level = g.level program := by
  cases hconfigured : g.configured with
  | false =>
    rw [(h.bare hconfigured).1] at hd
    cases hd
  | true =>
    obtain ⟨e, he, hlevel⟩ := h.configured hconfigured
    rw [he, List.mem_singleton] at hd
    rw [hd]
    exact hlevel

theorem Settled.installed (h : g.Settled) (text : String) (sink : Sink) (ks : List Kept)
    (rs : List Record) : (g.installed text sink ks rs).Settled :=
  ⟨h.linked, fun _ => ⟨_, rfl, .inl rfl⟩, nofun⟩

/-- Setting the program's level where its handlers have none of their own. -/
theorem Settled.setLevel_program (h : g.Settled) (hconfigured : g.configured = true)
    (hfresh : ∀ d ∈ g.handlers, d.level = .unset) (t : Severity) :
    (g.setLevel program t).Settled := by
  refine ⟨linked_setLevel h.linked isOwn_program (.inl rfl), fun _ => ?_, fun hbare => ?_⟩
  · obtain ⟨d, hd, -⟩ := h.configured hconfigured
    exact ⟨d, by rw [handlers_setLevel isOwn_program, hd], .inl (hfresh d (by simp [hd]))⟩
  · rw [configured_setLevel isOwn_program, hconfigured] at hbare
    cases hbare

theorem Settled.setup (h : g.Settled) (level : Value) (template : String) (sink : Sink) :
    (setup level template sink g).2.Settled := by
  rcases setup_cases level template sink h.linked.ofProgram with
    ⟨-, heq⟩ | ⟨-, f, -, heq⟩ | ⟨-, text, ks, rs, -, ⟨f, heq⟩ | ⟨t, heq⟩⟩
  · rw [heq]
    exact h
  · rw [heq]
    exact h
  · rw [heq]
    exact h.installed text sink ks rs
  · rw [heq]
    exact (h.installed text sink ks rs).setLevel_program rfl
      (fun d hd => by rw [List.mem_singleton.mp hd]) t

theorem Settled.prepared (h : g.Settled) : g.prepared.Settled :=
  h.setup .null "" .console

theorem configured_prepared (h : g.Settled) : g.prepared.configured = true := by
  rcases (prepared_cases h.linked.ofProgram).2 with ⟨hc, heq⟩ | ⟨-, ks, rs, t, heq⟩
  · rw [heq, hc]
  · rw [heq, configured_setLevel isOwn_program]
    rfl

/-- Giving out a logger prepares the registry, and takes away the level of any but the program's. -/
theorem give_eq (name : String) (g : Registry) :
    give name g = (.ok (ownName name),
      if ownName name = program then g.prepared
      else g.prepared.setLevel (ownName name) .unset) := by
  rw [give]
  split <;> rfl

theorem Settled.give (h : g.Settled) (name : String) : (give name g).2.Settled := by
  rw [give_eq]
  split
  · exact h.prepared
  · rename_i hne
    have hown := isOwn_ownName name
    have hp := h.prepared
    refine ⟨linked_setLevel hp.linked hown (.inr rfl), fun _ => ?_, fun hbare => ?_⟩
    · obtain ⟨d, hd, hlevel⟩ := hp.configured (configured_prepared h)
      refine ⟨d, by rw [handlers_setLevel hown, hd], ?_⟩
      rw [level_program_setLevel hp.linked hown hne]
      exact hlevel
    · rw [configured_setLevel hown, configured_prepared h] at hbare
      cases hbare

/-- The program's level and that of its handlers are set together, or neither is. -/
theorem setGlobal_cases (level : Value) (g : Registry) :
    (∃ f, Severity.ofValue level = .error f ∧ setGlobal level g = (.error f, g.prepared)) ∨
    (∃ t, Severity.ofValue level = .ok t ∧ setGlobal level g =
      (.ok (), { g.prepared.setLevel program t with
        handlers := (g.prepared.setLevel program t).handlers.map fun d =>
          { d with level := t } })) := by
  rw [setGlobal]
  match Severity.ofValue level with
  | .error f => exact .inl ⟨f, rfl, rfl⟩
  | .ok t => exact .inr ⟨t, rfl, rfl⟩

theorem Settled.setGlobal (h : g.Settled) (level : Value) : (setGlobal level g).2.Settled := by
  have hp := h.prepared
  rcases setGlobal_cases level g with ⟨f, -, heq⟩ | ⟨t, -, heq⟩
  · rw [heq]
    exact hp
  · rw [heq]
    have hconfigured : (g.prepared.setLevel program t).configured = true := by
      rw [configured_setLevel isOwn_program, configured_prepared h]
    refine ⟨linked_setLevel hp.linked isOwn_program (.inl rfl), fun _ => ?_, fun hbare => ?_⟩
    · obtain ⟨d, hd, -⟩ := hp.configured (configured_prepared h)
      refine ⟨{ d with level := t }, ?_, .inr ?_⟩
      · rw [handlers_setLevel isOwn_program, hd]
        rfl
      · exact (level_setLevel_self hp.linked isOwn_program (.inl rfl)).symm
    · rw [hconfigured] at hbare
      cases hbare

theorem Settled.reset (h : g.Settled) : g.reset.Settled := by
  have hlinked : Linked { g with handlers := [], configured := false }.loggers := h.linked
  refine ⟨linked_setLevel hlinked isOwn_program (.inl rfl), fun hc => ?_, fun _ => ⟨?_, ?_⟩⟩
  · rw [Registry.reset, configured_setLevel isOwn_program] at hc
    cases hc
  · rw [Registry.reset, handlers_setLevel isOwn_program]
  · exact level_setLevel_self hlinked isOwn_program (.inl rfl)

theorem Settled.setEnvironment (h : g.Settled) (named : Option String) :
    (setEnvironment named g).2.Settled := by
  rw [Registry.setEnvironment]
  split
  · exact h
  · exact ⟨h.linked, h.configured, h.bare⟩

/-- Every action keeps a registry settled, whether it fails or not. -/
theorem Settled.step (h : g.Settled) (a : Action) : (g.step a).Settled := by
  cases a with
  | setup level template sink => exact h.setup level template sink
  | give name => exact h.give name
  | setGlobal level => exact h.setGlobal level
  | debugOn => exact h.setGlobal _
  | debugOff => exact h.setGlobal _
  | reset => exact h.reset
  | surround named => exact h.setEnvironment named

theorem Settled.after (h : g.Settled) (actions : List Action) : (after actions g).Settled := by
  induction actions generalizing g with
  | nil => exact h
  | cons a actions ih => exact ih (h.step a)

theorem settled_start (rootLevel : Severity) (named : Option String) :
    { start with rootLevel := rootLevel, environment := named }.Settled := by
  refine ⟨⟨?_, ?_, ?_, ?_, ?_⟩, nofun, fun _ => ⟨rfl, rfl⟩⟩
  case refine_1 =>
    intro l hl
    rw [List.mem_singleton.mp hl]
    exact isOwn_program
  case refine_2 => exact List.nodup_singleton _
  case refine_3 => exact ⟨_, List.mem_cons_self, rfl⟩
  case refine_4 =>
    intro l hl
    rw [List.mem_singleton.mp hl]
    have hnone : ancestors program = [] := by decide +kernel
    intro n (hn : n ∈ ancestors program)
    rw [hnone] at hn
    cases hn
  case refine_5 =>
    intro l hl hne
    rw [List.mem_singleton.mp hl] at hne
    exact absurd rfl hne

/-- Whatever was done since the program began, the registry is settled. -/
theorem settled_after (rootLevel : Severity) (named : Option String) (actions : List Action) :
    (after actions (imported rootLevel named)).Settled :=
  (settled_start rootLevel named).prepared.after actions

end

end Registry

end CaseGrid.Log
