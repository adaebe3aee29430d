import CaseGrid.Proofs.Path.RoundTrip
import CaseGrid.Proofs.Suite.Expansion
import CaseGrid.Proofs.Text.Glue

/-
  Names of cases under the separator of two colons. A name need not read back as its path, but it
  belongs to one path only: the names of variables hold no colon, and they stand between all the
  labels, which do not hold the separator. Hence the names of all cases of a suite are pairwise
  different, whatever scenarios it has.
-/

namespace CaseGrid

open CaseGrid.Text (Points Alternating glue glue_alternating_inj)
open CaseGrid.Validation CaseGrid.Expansion

/-! ## Names and paths -/

/-- Labels and the names of variables alternate on the path of a case. -/
theorem alternating_of_points {reserved : List Value} {v : Value}
    {chosen : List (Variable × Choice)} {pss : List Points} (hv : IsLabel "::" v)
    (hchosen : ∀ p ∈ chosen, NameKept reserved p.1.name ∧ IsLabel "::" p.2.name)
    (hpss : (v :: chosen.flatMap fun p => [p.1.name, p.2.name]).map Value.points? =
      pss.map some) : Alternating ':'.toNat pss := by
  induction chosen generalizing v pss with
  | nil =>
    obtain ⟨ps, hps, -, hnot⟩ := hv
    cases pss with
    | nil => cases hpss
    | cons qs rest =>
      rw [List.map_cons, List.map_cons, hps] at hpss
      obtain ⟨hq, hrest⟩ := List.cons.inj hpss
      obtain rfl := Option.some.inj hq
      obtain rfl : rest = [] := List.map_eq_nil_iff.mp hrest.symm
      exact hnot
  | cons p chosen ih =>
    obtain ⟨ps, hps, -, hnot⟩ := hv
    obtain ⟨hname, hlabel⟩ := hchosen p (by simp)
    obtain ⟨r, hr, hi, -⟩ := hname.identifier
    rcases pss with _ | ⟨qs, _ | ⟨word, rest⟩⟩
    · cases hpss
    · cases (List.cons.inj hpss).2
    · rw [List.flatMap_cons, List.map_cons, List.map_cons, List.map_cons, List.cons_append,
        List.map_cons, hps, hr] at hpss
      obtain ⟨hq, htail⟩ := List.cons.inj hpss
      obtain ⟨hw, hrest⟩ := List.cons.inj htail
      obtain rfl := Option.some.inj hq
      obtain rfl : Points.ofString r = word := Option.some.inj hw
      refine ⟨hnot, colon_not_mem_of_isIdentifier hi, ?_, ?_⟩
      · intro hempty
        rw [Points.ofString_eq_nil.mp hempty] at hi
        cases hi
      · exact ih hlabel (fun q hq => hchosen q (by simp [hq])) hrest

theorem Case.alternating_points {config : Config} {x : Scenario} {vs : List Variable}
    (h : Kept config x vs) (hsep : config.separator = "::") {c : Case} (hc : c ∈ casesOf x vs)
    {pss : List Points} (hpss : c.path.points = .ok pss) : Alternating ':'.toNat pss := by
  obtain ⟨m, cs, -, hcs, rfl⟩ := chosen_of_mem_casesOf h hc
  have hchosen : ∀ p ∈ vs.zip cs,
      NameKept [x.resultName] p.1.name ∧ IsLabel "::" p.2.name := by
    intro p hp
    have hkept := h.declared.each p.1 (List.of_mem_zip hp).1
    exact ⟨hkept.name, hsep ▸ hkept.choices.labels p.2 (hcs.mem_values hp)⟩
  exact alternating_of_points (hsep ▸ h.frame.title) hchosen (Path.points_eq_ok_iff.mp hpss)

/-- Cases with the same name have the same path. -/
theorem Case.path_eq_of_written_eq {defaults config : Config} {x y : Scenario}
    {vs ws : List Variable} (hdefaults : defaults.separator = "::")
    (hconfig : config.separator = "::") (hx : Kept config x vs) (hy : Kept config y ws)
    {c d : Case} (hc : c ∈ casesOf x vs) (hd : d ∈ casesOf y ws)
    (h : c.written defaults = d.written defaults) : c.path = d.path := by
  obtain ⟨pss, hpss⟩ := Path.points_of_texts (Case.path_texts hx hc)
  obtain ⟨qss, hqss⟩ := Path.points_of_texts (Case.path_texts hy hd)
  rw [Case.written, Case.written, hdefaults, Path.write_eq_ok hpss, Path.write_eq_ok hqss] at h
  have hglue : glue [':'.toNat, ':'.toNat] pss = glue [':'.toNat, ':'.toNat] qss :=
    Except.ok.inj h
  have heq := glue_alternating_inj (Case.alternating_points hx hconfig hc hpss)
    (Case.alternating_points hy hconfig hd hqss) hglue
  rw [Path.eq_ofPoints hpss, Path.eq_ofPoints hqss, heq]

/--
The names of all cases of a suite are pairwise different, where the separator of two colons is both
that of the suite and that of names.
-/
theorem Suite.names_nodup {defaults : Config} {s : Suite}
    {groups : List (Scenario × List Case)} {t t' : Trace} (hs : s.Reachable)
    (hdefaults : defaults.separator = "::") (hsettings : (s.settings defaults).separator = "::")
    (h : s.expand defaults t = (.ok groups, t')) :
    ∃ cases, s.cases defaults t = (.ok cases, t') ∧
      (∀ c ∈ cases, ∃ name, c.written defaults = .ok name) ∧
      (cases.map (Case.written defaults)).Nodup := by
  obtain ⟨-, hcases⟩ := Suite.expand_groups h
  have hmem (c : Case) (hc : c ∈ groups.flatMap (·.2)) :
      ∃ x vs, Kept (s.settings defaults) x vs ∧ c ∈ casesOf x vs := by
    obtain ⟨g, hg, hcg⟩ := List.mem_flatMap.mp hc
    obtain ⟨vs, hvs, hg2⟩ := hcases g hg
    exact ⟨g.1, vs, hvs, hg2 ▸ hcg⟩
  refine ⟨groups.flatMap (·.2), ?_, ?_, ?_⟩
  · rw [Suite.cases, Session.bind_run_ok h]
    rfl
  · intro c hc
    obtain ⟨x, vs, hvs, hcx⟩ := hmem c hc
    obtain ⟨pss, hpss⟩ := Path.points_of_texts (Case.path_texts hvs hcx)
    exact ⟨_, Path.write_eq_ok hpss _⟩
  · refine List.pairwise_map.mpr ((List.pairwise_map.mp (Suite.nodup_paths hs h)).imp_of_mem ?_)
    intro c d hc hd hne hname
    obtain ⟨x, vs, hvs, hcx⟩ := hmem c hc
    obtain ⟨y, ws, hws, hdy⟩ := hmem d hd
    exact hne (Case.path_eq_of_written_eq hdefaults hsettings hvs hws hcx hdy hname)

/-- A suite of two grids of one, the title of one being that of the other and a colon. -/
def colonSuite : Suite :=
  ⟨none, [(.text "t", ⟨0, titledGrid "t"⟩), (.text "t:", ⟨1, titledGrid "t:"⟩)]⟩

theorem colonSuite_names_nodup :
    colonSuite.Reachable ∧ ∃ cases t', colonSuite.cases {} default = (.ok cases, t') ∧
      (∀ c ∈ cases, ∃ name, c.written {} = .ok name) ∧ (cases.map (Case.written {})).Nodup := by
  have hfirst : (Suite.empty none).add ⟨0, titledGrid "t"⟩ default =
      (.ok ⟨none, [(.text "t", ⟨0, titledGrid "t"⟩)]⟩, default) := rfl
  have hsecond : Suite.add ⟨none, [(.text "t", ⟨0, titledGrid "t"⟩)]⟩ ⟨1, titledGrid "t:"⟩ default =
      (.ok colonSuite, default) := rfl
  have hreachable : colonSuite.Reachable := .add (.add (.empty none) hfirst) hsecond
  obtain ⟨cases, hcases, hnames⟩ := Suite.names_nodup hreachable rfl rfl
    (rfl : colonSuite.expand {} default = (.ok _, _))
  exact ⟨hreachable, cases, _, hcases, hnames⟩

end CaseGrid
