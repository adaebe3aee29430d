import CaseGrid.Proofs.Log.History

/-
  What an installation that fails leaves behind. Only one from a registry that is not configured can
  fail. If it fails at its template, then nothing has changed. If it fails later, at the level, then
  its handler is there already and the registry counts as configured, so that no further
  installation does anything until the log is reset.

  Proved: `setup_fails`, both cases for any history before the installation.
-/

namespace CaseGrid.Log.Registry

variable {g : Registry}

/-- With a template and a level given, an installation fails just if the level is none. -/
theorem setup_of_level {template text : String} {level : Value} (sink : Sink)
    (hconfigured : g.configured = false) (hcheck : Template.check template = .ok text)
    (hlevel : level ≠ .null) :
    setup level template sink g =
      match Severity.ofValue level with
      | .error f => (.error f, g.installed text sink g.handled g.watched)
      | .ok t => (.ok (), (g.installed text sink g.handled g.watched).setLevel program t) := by
  have hsetup := setup_of_checked level sink hconfigured hcheck
  rw [namedLevel_of_ne_null hlevel] at hsetup
  exact hsetup

/-- A level takes effect that is given to a registry that is not configured. -/
theorem exists_setup_of_level (h : g.Settled) (hconfigured : g.configured = false) {level : Value}
    {t : Severity} (hlevel : level ≠ .null) (ht : Severity.ofValue level = .ok t) :
    ∃ g', setup level "" .console g = (.ok (), g') ∧ g'.level program = t := by
  have hstandard : Template.check "" = .ok Template.standard := rfl
  rw [setup_of_level .console hconfigured hstandard hlevel, ht]
  exact ⟨_, rfl, level_setLevel_self h.linked isOwn_program (.inl rfl)⟩

/--
An installation that fails finds a registry that is not configured, without a handler and without
a level, and leaves the level as it is. If it fails at its template, then it leaves everything as
it is. Otherwise it leaves its handler and a registry that is configured. A level that is given
next takes effect just if it was the template that failed, unless it is no level at all.
-/
theorem setup_fails (rootLevel : Severity) (named : Option String) (actions : List Action)
    (level : Value) (template : String) (sink : Sink) {f : Failure}
    (h : (setup level template sink (after actions (imported rootLevel named))).1 = .error f) :
    let g := after actions (imported rootLevel named)
    let g' := (setup level template sink g).2
    (g.configured = false ∧ g.handlers = [] ∧ g.level program = .unset) ∧
    g'.level program = g.level program ∧
    (Template.check template = .error f → g' = g) ∧
    (∀ text, Template.check template = .ok text →
      g'.configured = true ∧ g'.handlers = [⟨.unset, text, sink⟩]) ∧
    (∀ next t, next ≠ .null → Severity.ofValue next = .ok t →
      ∃ g'', setup next "" .console g' = (.ok (), g'') ∧
        (g''.level program = t ↔ Template.check template = .error f ∨ t = .unset)) := by
  intro g g'
  have hg : g.Settled := settled_after rootLevel named actions
  rcases setup_cases level template sink hg.linked.ofProgram with
    ⟨-, heq⟩ | ⟨hc, e, hcheck, heq⟩ | ⟨hc, text, ks, rs, hcheck, ⟨e, heq⟩ | ⟨t, heq⟩⟩
  · rw [heq] at h
    cases h
  · have hg' : g' = g := congrArg Prod.snd heq
    rw [heq] at h
    cases h
    refine ⟨⟨hc, hg.bare hc⟩, by rw [hg'], fun _ => hg', fun text htext => ?_,
      fun next t hnext ht => ?_⟩
    · rw [hcheck] at htext
      cases htext
    · obtain ⟨g'', hrun, hlevel⟩ := exists_setup_of_level hg hc hnext ht
      exact ⟨g'', hg' ▸ hrun, iff_of_true hlevel (.inl hcheck)⟩
  · have hg' : g' = g.installed text sink ks rs := congrArg Prod.snd heq
    have hlevel : g'.level program = g.level program := by
      rw [hg']
      rfl
    refine ⟨⟨hc, hg.bare hc⟩, hlevel, fun hfailed => ?_, fun text' htext => ?_,
      fun next t _ _ => ?_⟩
    · rw [hcheck] at hfailed
      cases hfailed
    · rw [hcheck] at htext
      cases htext
      rw [hg']
      exact ⟨rfl, rfl⟩
    · refine ⟨g', setup_of_configured _ _ _ (by rw [hg']; rfl), ?_⟩
      rw [hlevel, (hg.bare hc).2, hcheck, or_iff_right (by nofun), eq_comm]
  · rw [heq] at h
    cases h

/-- A template without a field leaves the registry as it is, and a level given next is set. -/
theorem setup_fails_plainTemplate :
    let g := after [.reset] (imported (.number warning) none)
    ∃ f g'', (setup (.text "error") "plain" .records g).1 = .error f ∧
      (setup (.text "error") "plain" .records g).2 = g ∧
      setup (.text "error") "" .console g = (.ok (), g'') ∧
      g''.level program = .number error := by
  intro g
  have hcheck : Template.check "plain" =
      .error (.other .valueError "Invalid format 'plain' for '%' style") := by rfl
  obtain ⟨-, -, hsame, -, hnext⟩ := setup_fails (.number warning) none [.reset] (.text "error")
    "plain" .records (f := .other .valueError "Invalid format 'plain' for '%' style") rfl
  obtain ⟨g'', hrun, hlevel⟩ := hnext (.text "error") (.number error) (by nofun) rfl
  rw [hsame hcheck] at hrun
  exact ⟨_, g'', rfl, hsame hcheck, hrun, hlevel.mpr (.inl hcheck)⟩

/-- After a reset, a name that is no level fails as such; but it leaves a handler and a registry
that is configured, and the level that is given next is not set. -/
theorem setup_changed_unknownLevel :
    let g := after [.reset] (imported (.number warning) none)
    let failed := setup (.text "chatty") "" .console g
    failed.1 = .error (.other .valueError "Unknown log level: 'chatty'") ∧
      g.configured = false ∧ g.handlers = [] ∧
      failed.2.configured = true ∧ failed.2.handlers ≠ [] ∧
      (setup (.text "error") "" .console failed.2).1 = .ok () ∧
      (setup (.text "error") "" .console failed.2).2.level program ≠ .number error := by
  refine ⟨rfl, ?_, ?_, ?_, ?_, rfl, ?_⟩ <;> decide +kernel

end CaseGrid.Log.Registry
