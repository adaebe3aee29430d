import CaseGrid.Proofs.Expansion.Product
import CaseGrid.Proofs.Session
import CaseGrid.Suite

/-
  Suites and what they expand to. A suite is made from nothing by adding one scenario after the
  other, and a title that is there already is refused; the invariant is that every scenario stands
  under its own title and that no two titles are taken for each other.

  Proved: the step and the run that keep the invariant (`Distinct.add`, `Reachable.distinct`), and
  that the paths of all cases of a suite are pairwise different (`nodup_paths`).
-/

namespace CaseGrid

open CaseGrid.Validation CaseGrid.Expansion

namespace Suite

/-! ## Reachable suites -/

/-- A suite that was made from nothing by adding scenarios. -/
inductive Reachable : Suite → Prop where
  | empty (config : Option Config) : Reachable (.empty config)
  | add {s s' : Suite} {m : Member} {t t' : Trace} (hs : Reachable s)
    (h : s.add m t = (.ok s', t')) : Reachable s'

/-- Every scenario stands under its own title, and the titles are pairwise different. -/
structure Distinct (s : Suite) : Prop where
  own : ∀ e ∈ s.members, e.1 = e.2.scenario.title
  apart : s.members.Pairwise fun e f => e.1.alike f.1 = false

/-- A scenario is added at the end, under a title that is not there yet. -/
theorem add_eq_ok {s s' : Suite} {m : Member} {t t' : Trace} (h : s.add m t = (.ok s', t')) :
    s' = { s with members := s.members ++ [(m.scenario.title, m)] } ∧
      s.members.get? m.scenario.title = none := by
  obtain ⟨title, t₁, htitle, h⟩ := Session.bind_eq_ok h
  obtain ⟨hkey, rfl⟩ := Session.ofFault_eq_ok htitle
  obtain rfl : title = m.scenario.title := by
    rw [Value.key] at hkey
    split at hkey
    · cases hkey
      rfl
    · cases hkey
  split at h
  · obtain ⟨_, _, -, h⟩ := Session.bind_eq_ok h
    cases h
  · rename_i hnew
    cases h
    exact ⟨rfl, by simpa using hnew⟩

theorem Distinct.add {s s' : Suite} {m : Member} {t t' : Trace} (hs : s.Distinct)
    (h : s.add m t = (.ok s', t')) : s'.Distinct := by
  obtain ⟨rfl, hnew⟩ := add_eq_ok h
  rw [Entries.get?_eq_none_iff] at hnew
  refine ⟨?_, ?_⟩
  · intro e he
    rcases List.mem_append.mp he with he | he
    · exact hs.own e he
    · obtain rfl := List.mem_singleton.mp he
      rfl
  · refine List.pairwise_append.mpr ⟨hs.apart, List.pairwise_singleton _ _, ?_⟩
    intro e he f hf
    obtain rfl := List.mem_singleton.mp hf
    exact hnew e he

theorem Reachable.distinct {s : Suite} (hs : s.Reachable) : s.Distinct := by
  induction hs with
  | empty config => exact ⟨by simp [Suite.empty], .nil⟩
  | add _ h ih => exact ih.add h

/-! ## The cases of a suite -/

/-- An expansion gives every scenario in order, each with its cases. -/
theorem expand_groups {defaults : Config} {s : Suite} {groups : List (Scenario × List Case)}
    {t t' : Trace} (h : s.expand defaults t = (.ok groups, t')) :
    groups.map Prod.fst = s.scenarios ∧
      ∀ g ∈ groups, ∃ vs, Kept (s.settings defaults) g.1 vs ∧ g.2 = casesOf g.1 vs := by
  obtain ⟨_, t₁, -, hrun⟩ := Session.bind_eq_ok h
  have hall : List.Forall₂ (fun x g => x = g.1 ∧
      ∃ vs, Kept (s.settings defaults) g.1 vs ∧ g.2 = casesOf g.1 vs) s.scenarios groups := by
    refine (Session.forEach_eq_ok hrun).imp ?_
    rintro x g ⟨t₂, t₃, hx⟩
    obtain ⟨cases, t₄, hcases, hg⟩ := Session.bind_eq_ok hx
    cases hg
    exact ⟨rfl, kept_of_expand hcases⟩
  clear h hrun
  generalize s.scenarios = scenarios at hall ⊢
  induction hall with
  | nil => simp
  | @cons x g xs gs hx _ ih =>
    obtain ⟨rfl, hvs⟩ := hx
    refine ⟨by rw [List.map_cons, ih.1], ?_⟩
    intro f hf
    rcases List.mem_cons.mp hf with rfl | hf
    · exact hvs
    · exact ih.2 f hf

/-- The scenarios of an expansion have titles that tell them apart. -/
theorem groups_apart {defaults : Config} {s : Suite} {groups : List (Scenario × List Case)}
    {t t' : Trace} (hs : s.Reachable) (h : s.expand defaults t = (.ok groups, t')) :
    groups.Pairwise fun f g => f.1.title.alike g.1.title = false := by
  obtain ⟨hgroups, -⟩ := expand_groups h
  obtain ⟨hown, hdistinct⟩ := hs.distinct
  have hscenarios : s.scenarios.Pairwise fun x y => x.title.alike y.title = false := by
    refine List.pairwise_map.mpr (hdistinct.imp_of_mem ?_)
    intro e f he hf hef
    rwa [← hown e he, ← hown f hf]
  rw [← hgroups] at hscenarios
  exact List.pairwise_map.mp hscenarios

theorem title_head_of_mem {config : Config} {x : Scenario} {vs : List Variable}
    (h : Kept config x vs) {c : Case} (hc : c ∈ casesOf x vs) : c.path.head? = some x.title := by
  obtain ⟨m, cs, -, -, rfl⟩ := chosen_of_mem_casesOf h hc
  rfl

/-- The title and two segments for each variable. -/
theorem length_path_of_mem {config : Config} {x : Scenario} {vs : List Variable}
    (h : Kept config x vs) {c : Case} (hc : c ∈ casesOf x vs) :
    c.path.length = 2 * vs.length + 1 := by
  obtain ⟨m, cs, -, hcs, rfl⟩ := chosen_of_mem_casesOf h hc
  have hzip : (vs.zip cs).length = vs.length := by
    rw [List.length_zip, hcs.length_eq, Nat.min_self]
  have hsegments : (segments vs cs).length = 2 * (vs.zip cs).length := by
    simp [segments, Nat.mul_comm]
  rw [List.length_cons, hsegments, hzip]

theorem nodup_paths_casesOf {config : Config} {x : Scenario} {vs : List Variable}
    (h : Kept config x vs) : ((casesOf x vs).map Case.path).Nodup := by
  rw [casesOf, List.map_map]
  exact nodup_combine (fun v hv => (h.declared.each v hv).choices.distinct) [x.title] []

/-- The titles tell the cases of different scenarios apart, and the candidates those of one. -/
theorem nodup_paths {defaults : Config} {s : Suite} {groups : List (Scenario × List Case)}
    {t t' : Trace} (hs : s.Reachable) (h : s.expand defaults t = (.ok groups, t')) :
    ((groups.flatMap (·.2)).map Case.path).Nodup := by
  obtain ⟨-, hcases⟩ := expand_groups h
  have hapart := groups_apart hs h
  rw [List.map_flatMap, List.nodup_flatMap]
  refine ⟨?_, hapart.imp_of_mem ?_⟩
  · intro g hg
    obtain ⟨vs, hvs, hg2⟩ := hcases g hg
    rw [hg2]
    exact nodup_paths_casesOf hvs
  · intro f g hf hg hfg p hpf hpg
    obtain ⟨vs, hvs, hf2⟩ := hcases f hf
    obtain ⟨ws, hws, hg2⟩ := hcases g hg
    obtain ⟨c, hc, rfl⟩ := List.mem_map.mp hpf
    obtain ⟨d, hd, hdc⟩ := List.mem_map.mp hpg
    rw [hf2] at hc
    rw [hg2] at hd
    have htitle : g.1.title = f.1.title := by
      have hhead := title_head_of_mem hws hd
      rw [hdc, title_head_of_mem hvs hc] at hhead
      exact (Option.some.inj hhead).symm
    obtain ⟨ps, hps, -⟩ := hvs.frame.title
    rw [htitle, Value.alike_self_of_points? hps] at hfg
    cases hfg

end Suite

end CaseGrid
