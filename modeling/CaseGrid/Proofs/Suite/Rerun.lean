import CaseGrid.Proofs.Path.Pattern
import CaseGrid.Proofs.Path.RoundTrip
import CaseGrid.Proofs.Run.Independence
import CaseGrid.Proofs.Suite.Expansion

/-
  Running a case again by its name. The name of a result is written with the separator of the
  defaults, and a suite cuts it at the separator of its own settings. With plain labels the pieces
  are the path of the case only if the two separators are the same, and no path of a suite begins
  with the path of another case, so that the case is then the only one that runs. With any other
  separator the pieces can at best be a beginning of the path, of which it may happen that no other
  case shares it.

  Proved: what a suite runs for one pattern, whatever was run before (`run_pattern`), and from it
  the exact condition (`run_name_iff`).
-/

namespace CaseGrid

open CaseGrid.Text (Points)
open CaseGrid.Validation CaseGrid.Expansion

/-! ## Steady expansions -/

namespace Expansion

open Session (Steady)

theorem accept_steady {config : Config} {x : Scenario} {vs : List Variable} {t t' : Trace}
    (h : accept config x t = (.ok vs, t')) : Steady (accept config x) (.ok vs) [] := by
  have hkept : Kept config x vs := by
    rw [← checkScenario_eq_ok_iff]
    rw [accept] at h
    cases hchecked : checkScenario config x with
    | ok ws =>
      rw [hchecked] at h
      cases h
      rfl
    | error r =>
      rw [hchecked] at h
      obtain ⟨e, t₁, -, hlog⟩ := Session.bind_eq_ok h
      obtain ⟨-, t₂, -, hend⟩ := Session.bind_eq_ok hlog
      cases hend
  intro u
  rw [accept_of_kept hkept]
  exact ⟨rfl, (List.append_nil _).symm⟩

theorem expand_steady {config : Config} {x : Scenario} {cases : List Case} {t t' : Trace}
    (h : expand config x t = (.ok cases, t')) : Steady (expand config x) (.ok cases) [] := by
  obtain ⟨vs, hkept, rfl⟩ := kept_of_expand h
  intro u
  rw [expand_of_kept hkept]
  exact ⟨rfl, (List.append_nil _).symm⟩

end Expansion

namespace Suite

open Session (Steady)

variable {defaults : Config} {s : Suite}

theorem expand_steady {groups : List (Scenario × List Case)} {t t' : Trace}
    (h : s.expand defaults t = (.ok groups, t')) :
    Steady (s.expand defaults) (.ok groups) [] := by
  obtain ⟨accepted, t₁, haccepted, hrun⟩ := Session.bind_eq_ok h
  have haccept : Steady (Session.forEach (accept (s.settings defaults)) s.scenarios)
      (.ok accepted) [] := by
    refine Session.steady_forEach ((Session.forEach_eq_ok haccepted).imp ?_)
    rintro x vs ⟨t₂, t₃, hx⟩
    exact Expansion.accept_steady hx
  refine haccept.bind (Session.steady_forEach ((Session.forEach_eq_ok hrun).imp ?_))
  rintro x g ⟨t₂, t₃, hx⟩
  obtain ⟨cases, t₄, hcases, hg⟩ := Session.bind_eq_ok hx
  cases hg
  exact (Expansion.expand_steady hcases).bind (Session.steady_pure (x, cases))

theorem cases_eq_ok {cases : List Case} {t t' : Trace} (h : s.cases defaults t = (.ok cases, t')) :
    ∃ groups, s.expand defaults t = (.ok groups, t') ∧ cases = groups.flatMap (·.2) := by
  obtain ⟨groups, t₁, hgroups, h⟩ := Session.bind_eq_ok h
  cases h
  exact ⟨groups, hgroups, rfl⟩

theorem cases_steady {cases : List Case} {t t' : Trace}
    (h : s.cases defaults t = (.ok cases, t')) : Steady (s.cases defaults) (.ok cases) [] := by
  obtain ⟨groups, hgroups, rfl⟩ := cases_eq_ok h
  exact (expand_steady hgroups).bind (Session.steady_pure _)

/-! ## Paths of a suite -/

/-- Of two scenarios of a suite no two have one title. -/
theorem group_eq_of_title {groups : List (Scenario × List Case)} {t t' : Trace} (hs : s.Reachable)
    (h : s.expand defaults t = (.ok groups, t')) {f g : Scenario × List Case} (hf : f ∈ groups)
    (hg : g ∈ groups) (htitle : f.1.title = g.1.title) : f = g := by
  have hne : groups.Pairwise fun f g => f.1.title ≠ g.1.title := by
    refine (groups_apart hs h).imp_of_mem ?_
    intro f g hf _ hfg heq
    obtain ⟨-, hcases⟩ := expand_groups h
    obtain ⟨vs, hvs, -⟩ := hcases f hf
    obtain ⟨ps, hps, -⟩ := hvs.frame.title
    rw [← heq, Value.alike_self_of_points? hps] at hfg
    cases hfg
  have hsymm : Std.Symm fun f g : Scenario × List Case => f.1.title ≠ g.1.title :=
    ⟨fun _ _ hfg => hfg.symm⟩
  by_contra hfg
  exact hne.forall hf hg hfg htitle

/-- No path of a suite begins with the path of another case. -/
theorem path_eq_of_prefix {cases : List Case} {t t' : Trace} (hs : s.Reachable)
    (h : s.cases defaults t = (.ok cases, t')) {c d : Case} (hc : c ∈ cases) (hd : d ∈ cases)
    (hcd : c.path <+: d.path) : d.path = c.path := by
  obtain ⟨groups, hgroups, rfl⟩ := cases_eq_ok h
  obtain ⟨-, hcases⟩ := expand_groups hgroups
  obtain ⟨f, hf, hcf⟩ := List.mem_flatMap.mp hc
  obtain ⟨g, hg, hdg⟩ := List.mem_flatMap.mp hd
  obtain ⟨vs, hvs, hf2⟩ := hcases f hf
  obtain ⟨ws, hws, hg2⟩ := hcases g hg
  have hcx := title_head_of_mem hvs (hf2 ▸ hcf)
  have hdy := title_head_of_mem hws (hg2 ▸ hdg)
  have htitle : f.1.title = g.1.title := by
    obtain ⟨rest, hrest⟩ := hcd
    rw [← hrest, List.head?_append, hcx] at hdy
    exact Option.some.inj hdy
  obtain rfl := group_eq_of_title hs hgroups hf hg htitle
  rw [hf2] at hcf hdg
  have hlength : c.path.length = d.path.length := by
    rw [length_path_of_mem hvs hcf, length_path_of_mem hvs hdg]
  exact (hcd.eq_of_length hlength).symm

/-- A case is found by a condition that its path alone meets. -/
theorem filter_eq_singleton {cases : List Case} {p : Case → Bool} {c : Case}
    (hdistinct : (cases.map Case.path).Nodup) (hc : c ∈ cases)
    (h : ∀ d ∈ cases, p d = true ↔ d.path = c.path) : cases.filter p = [c] := by
  induction cases with
  | nil => cases hc
  | cons d cases ih =>
    rw [List.map_cons, List.nodup_cons] at hdistinct
    have hlater : ∀ e ∈ cases, p e = true ↔ e.path = c.path := fun e he => h e (.tail _ he)
    rcases List.mem_cons.mp hc with rfl | hc
    · have hnone : cases.filter p = [] := by
        rw [List.filter_eq_nil_iff]
        intro e he hpe
        exact hdistinct.1 ((hlater e he).mp hpe ▸ List.mem_map_of_mem he)
      rw [List.filter_cons_of_pos ((h c List.mem_cons_self).mpr rfl), hnone]
    · have hd : ¬ p d = true := by
        rw [h d List.mem_cons_self]
        intro hdc
        exact hdistinct.1 (hdc ▸ List.mem_map_of_mem hc)
      rw [List.filter_cons_of_neg hd, ih hdistinct.2 hc hlater]

theorem cases_nodup {cases : List Case} {t t' : Trace} (hs : s.Reachable)
    (h : s.cases defaults t = (.ok cases, t')) : (cases.map Case.path).Nodup := by
  obtain ⟨groups, hgroups, rfl⟩ := cases_eq_ok h
  exact nodup_paths hs hgroups

theorem kept_of_mem_cases {cases : List Case} {t t' : Trace}
    (h : s.cases defaults t = (.ok cases, t')) :
    ∀ c ∈ cases, ∃ x vs, Kept (s.settings defaults) x vs ∧ c ∈ casesOf x vs := by
  intro c hc
  obtain ⟨groups, hgroups, rfl⟩ := cases_eq_ok h
  obtain ⟨g, hg, hcg⟩ := List.mem_flatMap.mp hc
  obtain ⟨vs, hvs, hg2⟩ := (expand_groups hgroups).2 g hg
  exact ⟨g.1, vs, hvs, hg2 ▸ hcg⟩

/-- The paths of the cases of a suite are written. -/
theorem texts_of_mem_cases {cases : List Case} {t t' : Trace}
    (h : s.cases defaults t = (.ok cases, t')) :
    ∀ c ∈ cases, ∀ v ∈ c.path, ∃ ps, v.points? = some ps := by
  intro c hc
  obtain ⟨x, vs, hvs, hcx⟩ := kept_of_mem_cases h c hc
  exact Case.path_texts hvs hcx

/-- What a pattern keeps is one case alone just if it addresses the case and no other path. -/
theorem filter_eq_singleton_iff {cases : List Case} {pattern : List String} {c : Case}
    (hdistinct : (cases.map Case.path).Nodup) (hc : c ∈ cases) (hpattern : pattern ≠ []) :
    (cases.filter fun d => Selection.addresses pattern d.path).map Case.path = [c.path] ↔
      pattern.map Value.text <+: c.path ∧
        ∀ d ∈ cases, pattern.map Value.text <+: d.path → d.path = c.path := by
  constructor
  · intro h
    have hmem (d : Case) (hd : d ∈ cases) (hpre : pattern.map Value.text <+: d.path) :
        d.path ∈ [c.path] := by
      rw [← h]
      exact List.mem_map_of_mem
        (List.mem_filter.mpr ⟨hd, (Selection.addresses_iff hpattern).mpr hpre⟩)
    have hself : c.path ∈ (cases.filter fun d =>
        Selection.addresses pattern d.path).map Case.path := by
      rw [h]
      exact List.mem_singleton_self _
    obtain ⟨d, hd, hdc⟩ := List.mem_map.mp hself
    refine ⟨?_, fun d hd hpre => List.mem_singleton.mp (hmem d hd hpre)⟩
    rw [← hdc]
    exact (Selection.addresses_iff hpattern).mp (List.mem_filter.mp hd).2
  · rintro ⟨hpre, honly⟩
    rw [filter_eq_singleton hdistinct hc, List.map_singleton]
    intro d hd
    rw [Selection.addresses_iff hpattern]
    exact ⟨honly d hd, fun hdc => hdc ▸ hpre⟩

/-! ## Runs of a suite -/

theorem run_nil {cases : List Case} {t t' : Trace} (h : s.cases defaults t = (.ok cases, t')) :
    s.run defaults [] t = Run.all defaults cases t' := by
  rw [run, Session.bind_run_ok h]
  rfl

/-- After any history a suite runs all of its cases if there is no pattern, and those that some
pattern addresses otherwise, each one with the result that it always has. -/
theorem run_selected {cases : List Case} {t t' : Trace} {patterns : List String}
    {parsed : List (List String)} (hcases : s.cases defaults t = (.ok cases, t'))
    (hsettled : ∀ c ∈ cases, ∃ v, Run.Settled defaults c (.ok v))
    (hparse : Selection.parse (s.settings defaults).separator patterns = .ok parsed) (u : Trace) :
    ∃ results u', s.run defaults patterns u = (.ok ⟨results⟩, u') ∧
      List.Forall₂ (fun c r => Run.Settled defaults c (.ok r.verdict))
        (if patterns.isEmpty then cases else Selection.keep parsed cases) results := by
  have hagain := (cases_steady hcases).run_ok u
  rw [run, Session.bind_run_ok hagain]
  cases hempty : patterns.isEmpty with
  | true =>
    rw [if_pos rfl, if_pos rfl]
    obtain ⟨results, u', hrun, hall, -⟩ := Run.all_of_settled hsettled (s.cases defaults u).2
    exact ⟨results, u', hrun, hall⟩
  | false =>
    have hselect (w : Trace) : ∃ w', Selection.select (s.settings defaults).separator patterns
        cases w = (.ok (Selection.keep parsed cases), w') := by
      rw [Selection.select, hparse]
      exact ⟨_, rfl⟩
    obtain ⟨w', hselect⟩ := hselect (s.cases defaults u).2
    have hkept : ∀ c ∈ Selection.keep parsed cases, ∃ v, Run.Settled defaults c (.ok v) :=
      fun c hc => hsettled c (List.mem_of_mem_filter hc)
    obtain ⟨results, u', hrun, hall, -⟩ := Run.all_of_settled hkept w'
    rw [if_neg Bool.false_ne_true, if_neg Bool.false_ne_true]
    exact ⟨results, u', (Session.bind_run_ok hselect).trans hrun, hall⟩

/-- With a pattern a suite runs the cases whose paths begin with its pieces. -/
theorem run_pattern {cases : List Case} {t t' : Trace} {text : String} {pattern : List String}
    (hcases : s.cases defaults t = (.ok cases, t'))
    (htexts : ∀ c ∈ cases, ∀ v ∈ c.path, ∃ ps, v.points? = some ps)
    (hsettled : ∀ c ∈ cases, ∃ v, Run.Settled defaults c (.ok v))
    (hparse : Path.parse (s.settings defaults).separator text = .ok pattern) (u : Trace) :
    ∃ results u', s.run defaults [text] u = (.ok ⟨results⟩, u') ∧
      results.map Execution.path =
        (cases.filter fun c => Selection.addresses pattern c.path).map Case.path := by
  have hpatterns : Selection.parse (s.settings defaults).separator [text] = .ok [pattern] := by
    rw [Selection.parse, List.mapM_cons, hparse]
    rfl
  obtain ⟨results, u', hrun, hall⟩ := run_selected hcases hsettled hpatterns u
  refine ⟨results, u', hrun, ?_⟩
  rw [Run.paths_of_settled (fun c hc => htexts c (List.mem_of_mem_filter hc)) hall]
  simp

end Suite

/-! ## Plain labels -/

/-- A text of letters and digits that is not empty. -/
def Value.IsPlain (v : Value) : Prop :=
  ∃ r : String, v = .text r ∧ r ≠ "" ∧ ∀ c ∈ r.toList, c.isAlphanum = true

/-- The title and the names of the chosen values are plain. -/
structure Case.PlainLabels (c : Case) : Prop where
  title : ∀ v ∈ c.path.head?, v.IsPlain
  values : ∀ p ∈ c.choices, p.2.IsPlain

namespace Case

theorem colon_not_mem_of_plain {r : String} (h : ∀ c ∈ r.toList, c.isAlphanum = true) :
    ':'.toNat ∉ Points.ofString r := by
  intro hmem
  obtain ⟨c, hc, hcc⟩ := List.mem_map.mp hmem
  obtain rfl : c = ':' := Char.toNat_inj.mp hcc
  exact absurd (h _ hc) (by decide)

/-- The path of a case with plain labels is made of texts without a colon. -/
theorem texts_of_plain {config : Config} {x : Scenario} {vs : List Variable}
    (h : Kept config x vs) {c : Case} (hc : c ∈ casesOf x vs) (hplain : c.PlainLabels) :
    ∃ r rs, c.path = (r :: rs).map Value.text ∧ r ≠ "" ∧ rs ≠ [] ∧
      ∀ q ∈ r :: rs, ':'.toNat ∉ Points.ofString q := by
  have hlength := Suite.length_path_of_mem h hc
  obtain ⟨m, cs, -, hcs, rfl⟩ := chosen_of_mem_casesOf h hc
  obtain ⟨r, hr, hne, hletters⟩ := hplain.title x.title rfl
  have hsegment : ∀ v ∈ segments vs cs, ∃ q, v = .text q ∧ ':'.toNat ∉ Points.ofString q := by
    intro v hv
    obtain ⟨p, hp, hvp⟩ := List.mem_flatMap.mp hv
    rcases List.mem_pair.mp hvp with rfl | rfl
    · obtain ⟨q, hq, hi, -⟩ := (h.declared.each p.1 (List.of_mem_zip hp).1).name.identifier
      exact ⟨q, hq, colon_not_mem_of_isIdentifier hi⟩
    · have hchoice : (p.1.name, p.2.name) ∈
          Case.choices ⟨x.title :: segments vs cs, assignment vs cs, some x⟩ := by
        rw [Case.choices, Path.choices, pairs_segments]
        exact List.mem_map_of_mem hp
      obtain ⟨q, hq, -, hq'⟩ := hplain.values _ hchoice
      exact ⟨q, hq, colon_not_mem_of_plain hq'⟩
  obtain ⟨rs, hrs, hclear⟩ := Path.exists_texts hsegment
  refine ⟨r, rs, by rw [hr, hrs, List.map_cons], hne, ?_,
    List.forall_mem_cons.mpr ⟨colon_not_mem_of_plain hletters, hclear⟩⟩
  have hpos : 0 < vs.length := List.length_pos_iff.mpr h.ne_nil
  rintro rfl
  rw [hrs, List.map_nil, List.length_singleton] at hlength
  omega

end Case

namespace Suite

/--
The name of a result, given to its suite as a pattern, runs that case alone exactly when the suite
cuts names at two colons, as they are written, or what it cuts them into is by chance a beginning of
the path that no other case shares.
-/
theorem run_name_iff {defaults : Config} {s : Suite} (hs : s.Reachable)
    (hdefaults : defaults.separator = "::") {cases : List Case} {t t₁ t₂ : Trace}
    (hcases : s.cases defaults t = (.ok cases, t₁)) (hplain : ∀ c ∈ cases, c.PlainLabels)
    {summary : Summary} (hrun : s.run defaults [] t = (.ok summary, t₂)) {r : Execution}
    (hr : r ∈ summary.results) :
    ∃ name pattern, r.name defaults = .ok name ∧
      Path.parse (s.settings defaults).separator name = .ok pattern ∧
      ∀ u, ∃ results u', s.run defaults [name] u = (.ok ⟨results⟩, u') ∧
        (results.map Execution.path = [r.path] ↔ (s.settings defaults).separator = "::" ∨
          pattern.length < r.path.length ∧ pattern.map Value.text <+: r.path ∧
            ∀ c ∈ cases, pattern.map Value.text <+: c.path → c.path = r.path) := by
  have htexts := texts_of_mem_cases hcases
  rw [run_nil hcases] at hrun
  have hall := Run.settled_of_all htexts hrun
  obtain ⟨c, hc, hcr⟩ : ∃ c ∈ cases, c.path = r.path := by
    rw [← List.mem_map, ← Run.paths_of_settled htexts hall]
    exact List.mem_map_of_mem hr
  obtain ⟨x, vs, hvs, hcx⟩ := kept_of_mem_cases hcases c hc
  obtain ⟨q, rs, hpath, hq, hrs, hclear⟩ := Case.texts_of_plain hvs hcx (hplain c hc)
  rw [Execution.name, ← hcr, hpath, Path.format_texts, hdefaults]
  have hname := Path.join_ne_empty "::" rs hq
  have hseparator := hvs.separator_ne_empty
  obtain ⟨pattern, hparse, hne, -⟩ := Path.parse_eq_ok hseparator hname
  refine ⟨_, pattern, rfl, hparse, fun u => ?_⟩
  obtain ⟨results, u', hrun', hpaths⟩ :=
    run_pattern hcases htexts (Run.exists_settled_of_mem hall) hparse u
  have honly := filter_eq_singleton_iff (cases_nodup hs hcases) hc hne
  refine ⟨results, u', hrun', ?_⟩
  rw [hpaths, ← hpath, honly]
  constructor
  · rintro ⟨hpre, hothers⟩
    by_cases hshort : pattern.length < c.path.length
    · exact .inr ⟨hshort, hpre, hothers⟩
    · have hwhole : pattern.map Value.text = c.path := by
        refine hpre.eq_of_length_le ?_
        rw [List.length_map]
        omega
      have hsame : pattern = q :: rs := by
        refine List.map_injective_iff.mpr ?_ (hwhole.trans hpath)
        rintro a b ⟨⟩
        rfl
      rw [hsame] at hparse
      have htwo : 2 ≤ (q :: rs).length := by
        have hpos := List.length_pos_iff.mpr hrs
        rw [List.length_cons]
        omega
      exact .inl (Path.separator_eq_of_parse hseparator htwo hname hparse)
  · rintro (hseparators | ⟨-, hpre, hothers⟩)
    · have hread : Path.parse "::" (Text.join "::" (q :: rs)) = .ok (q :: rs) :=
        Path.parse_join_pair (List.cons_ne_nil q rs) hclear hname
      rw [hseparators, hread] at hparse
      cases hparse
      rw [← hpath]
      exact ⟨List.prefix_refl _, fun d hd hpre => path_eq_of_prefix hs hcases hc hd hpre⟩
    · exact ⟨hpre, hothers⟩


/-- A suite with a grid of one, under some settings or none. -/
def titledSuite (config : Option Config) : Suite :=
  ⟨config, [(.text "t", ⟨0, titledGrid "t"⟩)]⟩

theorem reachable_titledSuite (config : Option Config) : (titledSuite config).Reachable := by
  have hadd : (Suite.empty config).add ⟨0, titledGrid "t"⟩ default =
      (.ok (titledSuite config), default) := rfl
  exact .add (.empty config) hadd

theorem plainLabels_titledCase : (titledCase "t").PlainLabels := by
  constructor
  · rintro v ⟨⟩
    exact ⟨"t", rfl, by decide, by simp [Char.isAlphanum]⟩
  · intro p hp
    obtain rfl := List.mem_singleton.mp hp
    exact ⟨"0", rfl, by decide, by simp [Char.isAlphanum]⟩

/-- Under the default settings the name of the only case selects it. -/
theorem run_name_titledSuite :
    (titledSuite none).Reachable ∧
      (∃ t', (titledSuite none).cases {} default = (.ok [titledCase "t"], t')) ∧
      (∀ c ∈ [titledCase "t"], c.PlainLabels) ∧
      ∃ r t', (titledSuite none).run {} [] default = (.ok ⟨[r]⟩, t') ∧
        ∃ name results u', r.name {} = .ok name ∧
          (titledSuite none).run {} [name] t' = (.ok ⟨results⟩, u') ∧
          results.map Execution.path = [r.path] := by
  have hplain : ∀ c ∈ [titledCase "t"], c.PlainLabels :=
    List.forall_mem_singleton.mpr plainLabels_titledCase
  have hcases : (titledSuite none).cases {} default = (.ok [titledCase "t"], _) := rfl
  have hrun : (titledSuite none).run {} [] default = (.ok ⟨[_]⟩, _) := rfl
  obtain ⟨name, pattern, hname, -, hagain⟩ := run_name_iff (reachable_titledSuite none) rfl
    hcases hplain hrun (List.mem_singleton_self _)
  obtain ⟨results, u', hrun', honly⟩ := hagain _
  exact ⟨reachable_titledSuite none, ⟨_, hcases⟩, hplain, _, _, hrun, name, results, u', hname,
    hrun', honly.mpr (.inl rfl)⟩

/-- Where the settings of the suite have another separator, the name selects nothing. -/
theorem not_run_name_titledSuite :
    (titledSuite (some { separator := "/" })).Reachable ∧
      (∃ t', (titledSuite (some { separator := "/" })).cases {} default =
        (.ok [titledCase "t"], t')) ∧
      (∀ c ∈ [titledCase "t"], c.PlainLabels) ∧
      ∃ r t', (titledSuite (some { separator := "/" })).run {} [] default = (.ok ⟨[r]⟩, t') ∧
        r.path = [.text "t", .text "v0", .text "0"] ∧ r.name {} = .ok "t::v0::0" ∧
        ∃ u', (titledSuite (some { separator := "/" })).run {} ["t::v0::0"] t' =
          (.ok ⟨[]⟩, u') := by
  have hcases : (titledSuite (some { separator := "/" })).cases {} default =
      (.ok [titledCase "t"], _) := rfl
  have hrun : (titledSuite (some { separator := "/" })).run {} [] default = (.ok ⟨[_]⟩, _) := rfl
  have htexts := texts_of_mem_cases hcases
  have hall := Run.settled_of_all htexts ((run_nil hcases).symm.trans hrun)
  have hparse : Path.parse "/" "t::v0::0" = .ok ["t::v0::0"] := rfl
  obtain ⟨results, u', hagain, hpaths⟩ :=
    run_pattern hcases htexts (Run.exists_settled_of_mem hall) hparse _
  have hnone : ([titledCase "t"].filter fun c => Selection.addresses ["t::v0::0"] c.path) = [] :=
    rfl
  rw [hnone, List.map_nil, List.map_eq_nil_iff] at hpaths
  subst hpaths
  have hname : Text.join "::" ["t", "v0", "0"] = "t::v0::0" := rfl
  exact ⟨reachable_titledSuite _, ⟨_, hcases⟩, List.forall_mem_singleton.mpr plainLabels_titledCase,
    _, _, hrun, rfl, hname ▸ Path.format_texts "::" ["t", "v0", "0"], u', hagain⟩

end Suite

end CaseGrid
