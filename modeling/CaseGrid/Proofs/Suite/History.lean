import CaseGrid.Proofs.Suite.Expansion
import CaseGrid.Proofs.Suite.Titles

/-
  Suites after any history. Scenarios are added one after the other, some of them refused because
  their title is there already; the invariant is that the suite holds the first scenario of each
  title that was offered so far, in order, under its own title.

  Proved: one attempt (`attempt_of_new`, `attempt_of_taken`), any number of them (`attempts_run`),
  how the expansion of all scenarios ends (`expand_of_forall_kept`, `expand_of_first`), and from
  these what a suite is after a history (`attempts_describe`). The first pass leaves no trace for a
  scenario that keeps the rules, so that a suite that fails leaves what the check of the first
  wrong scenario leaves; that one may fail with a number too long to be told of.
-/

namespace CaseGrid

open CaseGrid.Validation CaseGrid.Expansion

namespace Suite

open Member (news titled ofTitle? Texts)

/-! ## Attempts -/

/-- The error for a title that is there already. -/
def refusal (title : Value) : SpecificationError :=
  .make "title is already used in this suite" title .null none

/-- Tries to add a scenario: how that ended, and the suite after it, the same one if it failed. -/
def attempt (s : Suite) (m : Member) : Session (Except Failure Unit × Suite) := do
  match ← Session.attempt (s.add m) with
  | .ok s' => return (.ok (), s')
  | .error e => return (.error e, s)

/-- Tries to add some scenarios, one after the other. -/
def attempts : List Member → Suite → Session (List (Except Failure Unit) × Suite)
  | [], s => return ([], s)
  | m :: ms, s => do
    let (ending, s') ← s.attempt m
    let (endings, s'') ← attempts ms s'
    return (ending :: endings, s'')

variable {s : Suite} {m : Member}

theorem add_of_new (hm : m.scenario.title.IsText) (h : s.members.get? m.scenario.title = none)
    (t : Trace) :
    s.add m t = (.ok { s with members := s.members ++ [(m.scenario.title, m)] }, t) := by
  rw [add, hm.key]
  show (if (s.members.get? m.scenario.title).isSome then _ else _ : Session Suite) t = _
  rw [h]
  rfl

theorem add_of_taken {n : Member} (hm : m.scenario.title.IsText)
    (h : s.members.get? m.scenario.title = some n) (t : Trace) :
    ∃ t', s.add m t = (.error (.specification (refusal m.scenario.title)), t') := by
  rw [add, hm.key]
  show ∃ t', (if (s.members.get? m.scenario.title).isSome then _ else _ : Session Suite) t = (_, t')
  rw [h]
  exact ⟨_, rfl⟩

theorem attempt_of_new (hm : m.scenario.title.IsText)
    (h : s.members.get? m.scenario.title = none) (t : Trace) :
    s.attempt m t =
      (.ok (.ok (), { s with members := s.members ++ [(m.scenario.title, m)] }), t) := by
  rw [attempt, Session.bind_run_ok (Session.attempt_run (add_of_new hm h t))]
  rfl

theorem attempt_of_taken {n : Member} (hm : m.scenario.title.IsText)
    (h : s.members.get? m.scenario.title = some n) (t : Trace) :
    ∃ t', s.attempt m t = (.ok (.error (.specification (refusal m.scenario.title)), s), t') := by
  obtain ⟨t', hadd⟩ := add_of_taken hm h t
  exact ⟨t', by rw [attempt, Session.bind_run_ok (Session.attempt_run hadd)]; rfl⟩

/-- How an attempt ends, by the titles of all that were offered before. -/
def endingAfter (before : List Member) (m : Member) : Except Failure Unit :=
  if (ofTitle? before m.scenario.title).isSome then
    .error (.specification (refusal m.scenario.title))
  else .ok ()

/-- One attempt on a suite that holds the first of each title. -/
theorem attempt_run {before : List Member} (h : Texts (before ++ [m]))
    (hs : s.members = titled (news [] before)) (t : Trace) :
    ∃ t', s.attempt m t =
      (.ok (endingAfter before m, { s with members := titled (news [] (before ++ [m])) }), t') := by
  have hget : s.members.get? m.scenario.title = ofTitle? before m.scenario.title := by
    rw [hs, Member.get?_titled_news h.left]
  rw [endingAfter, Member.news_concat, List.nil_append, ← hget]
  cases hfound : s.members.get? m.scenario.title with
  | none =>
    refine ⟨t, ?_⟩
    rw [attempt_of_new h.right.head hfound, hs]
    simp [titled]
  | some n =>
    obtain ⟨t', hrun⟩ := attempt_of_taken h.right.head hfound t
    refine ⟨t', ?_⟩
    rw [hrun]
    simp [← hs]

theorem attempts_run {before ms : List Member} (h : Texts (before ++ ms))
    (hs : s.members = titled (news [] before)) (t : Trace) :
    ∃ endings t', attempts ms s t =
        (.ok (endings, { s with members := titled (news [] (before ++ ms)) }), t') ∧
      ∀ i n, ms[i]? = some n → endings[i]? = some (endingAfter (before ++ ms.take i) n) := by
  induction ms generalizing s before t with
  | nil =>
    refine ⟨[], t, ?_, by simp⟩
    rw [List.append_nil, ← hs]
    rfl
  | cons m ms ih =>
    rw [← List.singleton_append, ← List.append_assoc] at h
    obtain ⟨t₁, hm⟩ := attempt_run h.left hs t
    obtain ⟨endings, t₂, hms, hendings⟩ :=
      ih (s := { s with members := titled (news [] (before ++ [m])) }) h rfl t₁
    refine ⟨endingAfter before m :: endings, t₂, ?_, ?_⟩
    · rw [attempts, Session.bind_run_ok hm]
      refine (Session.bind_run_ok hms).trans ?_
      rw [List.append_assoc]
      rfl
    · intro i n hn
      cases i with
      | zero =>
        rw [List.take_zero, List.append_nil]
        cases hn
        rfl
      | succ i =>
        rw [List.take_succ_cons, List.getElem?_cons_succ, hendings i n hn, List.append_assoc]
        rfl

/-! ## What a suite holds -/

theorem get_eq_ok_iff {title : Value} :
    s.get title = .ok m ↔ title.key = .ok title ∧ s.members.get? title = some m := by
  rw [get, bind_eq_ok_iff]
  constructor
  · rintro ⟨key, hkey, h⟩
    obtain rfl := Value.eq_of_key hkey
    split at h
    · cases h
      exact ⟨hkey, by assumption⟩
    · cases h
  · rintro ⟨hkey, h⟩
    exact ⟨title, hkey, by rw [h]; rfl⟩

theorem get_of_unknown {title : Value} (hkey : title.key = .ok title)
    (h : s.members.get? title = none) : s.get title = .error (.unknownKey title) := by
  rw [get, bind_eq_error_iff]
  exact .inr ⟨title, hkey, by rw [h]; rfl⟩

theorem contains_eq_ok_iff {title : Value} {b : Bool} :
    s.contains title = .ok b ↔ title.key = .ok title ∧ (s.members.get? title).isSome = b := by
  rw [contains, bind_eq_ok_iff]
  constructor
  · rintro ⟨key, hkey, h⟩
    obtain rfl := Value.eq_of_key hkey
    exact ⟨hkey, Except.ok.inj h⟩
  · rintro ⟨hkey, h⟩
    exact ⟨title, hkey, congrArg Except.ok h⟩

/-- A suite holds just some scenarios, in order, each under its own title. -/
structure Describes (s : Suite) (ms : List Member) : Prop where
  scenarios : s.scenarios = ms.map Member.scenario
  titles : s.titles = ms.map fun m => m.scenario.title
  length : s.members.length = ms.length
  get_iff : ∀ title m, s.get title = .ok m ↔ m ∈ ms ∧ m.scenario.title = title
  get_unknown : ∀ title, title.key = .ok title → (∀ m ∈ ms, m.scenario.title ≠ title) →
    s.get title = .error (.unknownKey title)
  contains_iff : ∀ title, s.contains title = .ok true ↔ ∃ m ∈ ms, m.scenario.title = title
  contains_unknown : ∀ title, title.key = .ok title → (∀ m ∈ ms, m.scenario.title ≠ title) →
    s.contains title = .ok false

section Describes

variable {ms : List Member} (h : Texts ms) (hs : s.members = titled ms)

include h hs

theorem get?_eq_none_of_titled {title : Value} (hno : ∀ m ∈ ms, m.scenario.title ≠ title) :
    s.members.get? title = none := by
  rw [hs, Member.get?_titled, Member.ofTitle?_eq_none_iff h]
  exact hno

theorem get?_eq_some_iff_of_titled (hdistinct : (ms.map fun m => m.scenario.title).Nodup)
    {title : Value} : s.members.get? title = some m ↔ m ∈ ms ∧ m.scenario.title = title := by
  rw [hs, Member.get?_titled]
  constructor
  · intro hm
    obtain ⟨hfirst, htitle⟩ := (Member.ofTitle?_eq_some_iff h).mp hm
    exact ⟨hfirst.mem, htitle⟩
  · rintro ⟨hm, rfl⟩
    exact Member.ofTitle?_of_mem h hdistinct hm

/-- Scenarios of different titles are what the suite of them holds. -/
theorem describes_of_titled (hdistinct : (ms.map fun m => m.scenario.title).Nodup) :
    s.Describes ms := by
  have hfound {title : Value} {m : Member} :
      s.members.get? title = some m ↔ m ∈ ms ∧ m.scenario.title = title :=
    get?_eq_some_iff_of_titled h hs hdistinct
  have hkey {title : Value} {m : Member} (hm : m ∈ ms ∧ m.scenario.title = title) :
      title.key = .ok title := hm.2 ▸ (h m hm.1).key
  refine ⟨?_, ?_, ?_, ?_, ?_, ?_, ?_⟩
  · rw [scenarios, hs, titled, List.map_map]
    rfl
  · rw [titles, Entries.keys, hs, titled, List.map_map]
    rfl
  · rw [hs, titled, List.length_map]
  · intro title m
    rw [get_eq_ok_iff, hfound]
    exact ⟨And.right, fun hm => ⟨hkey hm, hm⟩⟩
  · intro title hk hno
    exact get_of_unknown hk (get?_eq_none_of_titled h hs hno)
  · intro title
    rw [contains_eq_ok_iff, Option.isSome_iff_exists]
    constructor
    · rintro ⟨-, m, hm⟩
      exact ⟨m, hfound.mp hm⟩
    · rintro ⟨m, hm⟩
      exact ⟨hkey hm, m, hfound.mpr hm⟩
  · intro title hk hno
    rw [contains_eq_ok_iff, get?_eq_none_of_titled h hs hno]
    exact ⟨hk, rfl⟩

end Describes

/-! ## Expanding all scenarios or none -/

section Expanding

variable {defaults : Config}

theorem silent_accept {config : Config} {x : Scenario} (h : ∃ vs, Kept config x vs) :
    Session.Silent (accept config x) := by
  obtain ⟨vs, hvs⟩ := h
  exact ⟨vs, accept_of_kept hvs⟩

/-- The second pass does not fail on scenarios that passed the first one. -/
theorem expand_of_forall_kept (h : ∀ x ∈ s.scenarios, ∃ vs, Kept (s.settings defaults) x vs)
    (t : Trace) : ∃ groups t', s.expand defaults t = (.ok groups, t') := by
  obtain ⟨vss, hvss⟩ := Session.silent_forEach fun x hx => silent_accept (h x hx)
  obtain ⟨groups, t', hgroups⟩ := Session.exists_forEach_eq_ok
    (f := fun x => do
      let cases ← Expansion.expand (s.settings defaults) x
      return (x, cases))
    (fun x hx t => by
      obtain ⟨vs, hvs⟩ := h x hx
      exact ⟨_, _, Session.bind_run_ok (expand_of_kept hvs t)⟩) t
  exact ⟨groups, t', (Session.bind_run_ok (hvss t)).trans hgroups⟩

/-- The first scenario that breaks a rule ends the expansion with what its check leaves. -/
theorem expand_of_first {before after : List Scenario} {x : Scenario} {f : Failure}
    {t t' : Trace} (hs : s.scenarios = before ++ x :: after)
    (hbefore : ∀ y ∈ before, ∃ vs, Kept (s.settings defaults) y vs)
    (hx : accept (s.settings defaults) x t = (.error f, t')) :
    s.expand defaults t = (.error f, t') := by
  refine Session.bind_run_error ?_
  rw [hs]
  exact Session.forEach_of_first (fun y hy => silent_accept (hbefore y hy)) hx

theorem accept_error_of_not_kept {config : Config} {x : Scenario}
    (h : ¬ ∃ vs, Kept config x vs) (t : Trace) :
    ∃ f t', accept config x t = (.error f, t') ∧
      ((∃ e, f = .specification e) ↔ ¬ ∃ r, Rejected config x r ∧ r.isTooLong = true) := by
  obtain ⟨r, hr⟩ := not_kept_iff.mp h
  cases hlong : r.isTooLong with
  | false =>
    refine ⟨_, _, accept_of_told hr (error_of_told hlong) t, iff_of_true ⟨_, rfl⟩ ?_⟩
    rintro ⟨q, hq, hlong'⟩
    rw [rejected_unique hq hr, hlong] at hlong'
    cases hlong'
  | true =>
    exact ⟨_, _, accept_of_untold hr (error_of_untold hlong) t,
      iff_of_false (by simp) (not_not.mpr ⟨r, hr, hlong⟩)⟩

theorem cases_of_expand {groups : List (Scenario × List Case)} {t t' : Trace}
    (h : s.expand defaults t = (.ok groups, t')) :
    s.cases defaults t = (.ok (groups.flatMap (·.2)), t') :=
  (Session.bind_run_ok h).trans rfl

/-- How a suite expands: all scenarios or none. -/
structure ExpandsAsOne (defaults : Config) (s : Suite) (t : Trace) : Prop where
  returns_iff : (∃ groups t', s.expand defaults t = (.ok groups, t')) ↔
    ∀ x ∈ s.scenarios, ∃ vs, Kept (s.settings defaults) x vs
  groups : ∀ groups t', s.expand defaults t = (.ok groups, t') →
    groups.map Prod.fst = s.scenarios ∧
    (∀ g ∈ groups, ∀ u, (Expansion.expand (s.settings defaults) g.1 u).1 = .ok g.2) ∧
    s.cases defaults t = (.ok (groups.flatMap Prod.snd), t')
  fails : ∀ before x after, s.scenarios = before ++ x :: after →
    (∀ y ∈ before, ∃ vs, Kept (s.settings defaults) y vs) →
    (¬ ∃ vs, Kept (s.settings defaults) x vs) →
    ∃ f t', accept (s.settings defaults) x t = (.error f, t') ∧
      s.expand defaults t = (.error f, t') ∧ s.cases defaults t = (.error f, t') ∧
      ((∃ e, f = .specification e) ↔
        ¬ ∃ r, Rejected (s.settings defaults) x r ∧ r.isTooLong = true)

theorem expandsAsOne (defaults : Config) (s : Suite) (t : Trace) : s.ExpandsAsOne defaults t := by
  refine ⟨⟨?_, fun h => expand_of_forall_kept h t⟩, ?_, ?_⟩
  · rintro ⟨groups, t', h⟩ x hx
    obtain ⟨hscenarios, hcases⟩ := expand_groups h
    rw [← hscenarios] at hx
    obtain ⟨g, hg, rfl⟩ := List.mem_map.mp hx
    obtain ⟨vs, hvs, -⟩ := hcases g hg
    exact ⟨vs, hvs⟩
  · intro groups t' h
    obtain ⟨hscenarios, hcases⟩ := expand_groups h
    refine ⟨hscenarios, fun g hg u => ?_, cases_of_expand h⟩
    obtain ⟨vs, hvs, hg2⟩ := hcases g hg
    rw [expand_of_kept hvs, hg2]
  · intro before x after hs hbefore hx
    obtain ⟨f, t', hf, htold⟩ := accept_error_of_not_kept hx t
    have hexpand := expand_of_first hs hbefore hf
    exact ⟨f, t', hf, hexpand, Session.bind_run_error hexpand, htold⟩

end Expanding

/-! ## Histories -/

/-- Adding refuses just the titles that are there, and then the suite stays as it was. -/
def RefusesTaken (s : Suite) : Prop :=
  ∀ m : Member, m.scenario.title.IsText → ∀ t,
    ((∃ e, (s.add m t).1 = .error (.specification e)) ↔ s.contains m.scenario.title = .ok true) ∧
    (s.contains m.scenario.title = .ok true →
      ∃ t', s.attempt m t = (.ok (.error (.specification (refusal m.scenario.title)), s), t'))

theorem refusesTaken (s : Suite) : s.RefusesTaken := by
  intro m hm t
  have hcontains : s.contains m.scenario.title = .ok true ↔
      ∃ n, s.members.get? m.scenario.title = some n := by
    rw [contains_eq_ok_iff, Option.isSome_iff_exists, and_iff_right hm.key]
  rw [hcontains]
  refine ⟨?_, fun ⟨n, hn⟩ => attempt_of_taken hm hn t⟩
  cases hn : s.members.get? m.scenario.title with
  | none => simp [add_of_new hm hn]
  | some n =>
    obtain ⟨t', hadd⟩ := add_of_taken hm hn t
    simp [hadd]

theorem endingAfter_eq_error_iff {before : List Member} (h : Texts before) :
    endingAfter before m = .error (.specification (refusal m.scenario.title)) ↔
      ∃ n ∈ before, n.scenario.title = m.scenario.title := by
  rw [endingAfter]
  split
  · rename_i hfound
    obtain ⟨n, hn⟩ := Option.isSome_iff_exists.mp hfound
    obtain ⟨hfirst, htitle⟩ := (Member.ofTitle?_eq_some_iff h).mp hn
    exact iff_of_true rfl ⟨n, hfirst.mem, htitle⟩
  · rename_i hnew
    rw [Option.not_isSome_iff_eq_none, Member.ofTitle?_eq_none_iff h] at hnew
    exact iff_of_false nofun (by simpa using hnew)

theorem endingAfter_eq_ok_iff {before : List Member} (h : Texts before) :
    endingAfter before m = .ok () ↔ ∀ n ∈ before, n.scenario.title ≠ m.scenario.title := by
  rw [← Member.ofTitle?_eq_none_iff h, endingAfter]
  cases ofTitle? before m.scenario.title <;> simp

/--
A suite after any history of attempts to add scenarios. An attempt is refused just if one before it
had the title; the suite holds the scenarios that had a new title, in order, each under its own
title, and refuses just these titles from then on. Its expansion gives the cases of each scenario in
order if all of them keep the rules, and otherwise fails as the check of the first one that does
not, after nothing but that check. Then the error is that of a malformed scenario unless a number
is too long for it.
-/
theorem attempts_describe (config : Option Config) {ms : List Member} (h : Texts ms) (t : Trace) :
    ∃ endings s t', attempts ms (empty config) t = (.ok (endings, s), t') ∧ s.config = config ∧
      (∀ before m after, ms = before ++ m :: after →
        (endings[before.length]? = some (.error (.specification (refusal m.scenario.title))) ↔
          ∃ n ∈ before, n.scenario.title = m.scenario.title) ∧
        (endings[before.length]? = some (.ok ()) ↔
          ∀ n ∈ before, n.scenario.title ≠ m.scenario.title)) ∧
      s.Describes (news [] ms) ∧ s.RefusesTaken ∧
      ∀ defaults u, s.ExpandsAsOne defaults u ∧
        ∀ groups u', s.expand defaults u = (.ok groups, u') →
          (groups.map fun g => g.1.title) = s.titles := by
  have htexts : Texts ([] ++ ms) := h
  obtain ⟨endings, t', hrun, hendings⟩ := attempts_run (s := empty config) htexts rfl t
  have hdescribes : Describes { empty config with members := titled (news [] ms) } (news [] ms) :=
    describes_of_titled (fun m hm => h m (Member.mem_of_mem_news hm)) rfl (Member.nodup_news h)
  refine ⟨endings, _, t', hrun, rfl, ?_, hdescribes, refusesTaken _, ?_⟩
  · rintro before m after rfl
    have hending : endings[before.length]? = some (endingAfter before m) := by
      rw [hendings before.length m (by simp), List.nil_append, List.take_left]
    rw [hending, Option.some.injEq, Option.some.injEq]
    exact ⟨endingAfter_eq_error_iff h.left, endingAfter_eq_ok_iff h.left⟩
  · intro defaults u
    have hexpands := expandsAsOne defaults { empty config with members := titled (news [] ms) } u
    refine ⟨hexpands, fun groups u' hgroups => ?_⟩
    obtain ⟨hscenarios, -, -⟩ := hexpands.groups groups u' hgroups
    have htitles := congrArg (List.map Scenario.title) hscenarios
    rw [List.map_map, hdescribes.scenarios, List.map_map] at htitles
    exact htitles.trans hdescribes.titles.symm

/-- Three grids, two of them with one title. -/
def threeGrids : List Member :=
  [⟨0, gridOf 2 2⟩, ⟨1, gridOf 1 2⟩, ⟨2, { gridOf 1 1 with title := .text "u" }⟩]

/-- The second of the three is refused; the suite of the other two expands both of them. -/
theorem attempts_threeGrids :
    ∃ endings s t', attempts threeGrids (empty none) default = (.ok (endings, s), t') ∧
      endings[1]? = some (.error (.specification (refusal (.text "t")))) ∧
      s.titles = [.text "t", .text "u"] ∧
      ∃ groups u, s.expand {} t' = (.ok groups, u) ∧
        groups.map (fun g => g.1.title) = [.text "t", .text "u"] := by
  have htexts : Texts threeGrids := by
    intro m hm
    fin_cases hm <;> exact Value.isText_text _
  obtain ⟨endings, s, t', hrun, hconfig, hendings, hdescribes, -, hexpands⟩ :=
    attempts_describe none htexts default
  obtain ⟨hone, htitled⟩ := hexpands {} t'
  have htitles : s.titles = [.text "t", .text "u"] := hdescribes.titles
  have hkept : ∀ x ∈ s.scenarios, ∃ vs, Kept (s.settings {}) x vs := by
    rw [hdescribes.scenarios, settings, hconfig]
    intro x hx
    have hx : x ∈ [gridOf 2 2, { gridOf 1 1 with title := .text "u" }] := hx
    fin_cases hx
    · exact ⟨axes 2 2, gridOf_kept rfl (by decide) (by decide) (by simp)⟩
    · exact ⟨axes 1 1, checkScenario_eq_ok_iff.mp rfl⟩
  obtain ⟨groups, u, hgroups⟩ := hone.returns_iff.mpr hkept
  refine ⟨endings, s, t', hrun, ?_, htitles, groups, u, hgroups, ?_⟩
  · exact (hendings [⟨0, gridOf 2 2⟩] ⟨1, gridOf 1 2⟩ _ rfl).1.mpr ⟨_, List.mem_cons_self, rfl⟩
  · rw [htitled groups u hgroups, htitles]

/-- A suite of one grid with a limit. -/
def limitedSuite (n k : Nat) (limit : Int) : Suite :=
  ⟨some { maxCases := some limit }, titled [⟨0, gridOf n k⟩]⟩

/-- A suite of one grid with a limit that it breaks, although no error tells of it, fails with a
fault. -/
theorem expand_limitedSuite_untold :
    attempts [⟨0, gridOf 2150 100⟩] (empty (some { maxCases := some 1000 })) default =
        (.ok ([.ok ()], limitedSuite 2150 100 1000), default) ∧
      (¬ ∃ vs, Kept { maxCases := some 1000 } (gridOf 2150 100) vs) ∧
      ((limitedSuite 2150 100 1000).expand {} default).1 = .error (.fault .numberTooLong) := by
  obtain ⟨r, hr, hlong⟩ := gridOf_too_long
  have hadd := attempt_of_new (s := empty (some { maxCases := some 1000 }))
    (m := ⟨0, gridOf 2150 100⟩) (Value.isText_text "t") rfl default
  have hsettings : (limitedSuite 2150 100 1000).settings {} = { maxCases := some 1000 } := rfl
  have hscenarios : (limitedSuite 2150 100 1000).scenarios = [] ++ gridOf 2150 100 :: [] := rfl
  refine ⟨by rw [attempts, Session.bind_run_ok hadd]; rfl, not_kept_iff.mpr ⟨r, hr⟩, ?_⟩
  rw [expand_of_first hscenarios (fun y hy => nomatch hy)
    (by rw [hsettings]; exact accept_of_untold hr (error_of_untold hlong) default)]

end Suite

end CaseGrid
