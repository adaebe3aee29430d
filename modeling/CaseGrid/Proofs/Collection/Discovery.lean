import CaseGrid.Proofs.Collection.Titles
import CaseGrid.Proofs.Suite.History

/-
  Two ways to find the scenarios of a module. A suite first drops what it has by identity and then
  refuses a title that is there; a host remembers one scenario for each title and drops only that
  one. Both go through the names in order.

  The invariant `Agree` relates what both have after each name: the suite will refuse a title just
  if a node has a conflict, and otherwise the nodes are those of the scenarios that the suite has.
  Proved: it holds after one more scenario (`Agree.next`) and after all (`Agree.run`), how a suite
  of given scenarios is made (`addAll_of_nodup`, `addAll_of_not_nodup`), and from these that the two
  ways agree (`ofModule_agrees`).
-/

namespace CaseGrid

namespace Collection

open Definitions (addNew testPrefix)
open Member (titled ofTitle? Texts Identified)
open Suite (addAll)

/-! ## Dropping by identity -/

section AddNew

variable {found : List Member} {m : Member}

theorem addNew_of_any (h : ∃ n ∈ found, n.id = m.id) : addNew found m = found := by
  have hany : found.any (fun n => n.id == m.id) = true := by simpa using h
  rw [addNew, if_pos hany]

theorem addNew_of_not_any (h : ∀ n ∈ found, n.id ≠ m.id) : addNew found m = found ++ [m] := by
  have hany : ¬ found.any (fun n => n.id == m.id) = true := by simpa using h
  rw [addNew, if_neg hany]

theorem mem_addNew_iff (hsame : ∀ n ∈ found, n.id = m.id → n = m) (k : Member) :
    k ∈ addNew found m ↔ k ∈ found ∨ k = m := by
  by_cases h : ∃ n ∈ found, n.id = m.id
  · obtain ⟨n, hn, hid⟩ := h
    obtain rfl := hsame n hn hid
    rw [addNew_of_any ⟨n, hn, rfl⟩]
    exact ⟨Or.inl, fun hk => hk.elim id fun hk => hk ▸ hn⟩
  · push Not at h
    rw [addNew_of_not_any h, List.mem_append, List.mem_singleton]

theorem nodup_map_concat {α : Type} (f : Member → α) (found : List Member) (m : Member) :
    ((found ++ [m]).map f).Nodup ↔ (∀ n ∈ found, f n ≠ f m) ∧ (found.map f).Nodup := by
  rw [List.map_append, List.map_singleton, ← List.concat_eq_append, List.nodup_concat]
  simp

theorem nodup_addNew (h : (found.map Member.id).Nodup) (m : Member) :
    ((addNew found m).map Member.id).Nodup := by
  by_cases hany : ∃ n ∈ found, n.id = m.id
  · rw [addNew_of_any hany]
    exact h
  · push Not at hany
    rw [addNew_of_not_any hany, nodup_map_concat]
    exact ⟨hany, h⟩

end AddNew

/-- The scenarios of a module are those that its names offer, each one once. -/
theorem scenarios_eq (start : String) (ds : Definitions) :
    ds.scenarios (some start) =
      (members (offered (Text.begins start) ds)).foldl addNew [] := by
  unfold Definitions.scenarios
  generalize ([] : List Member) = found
  induction ds generalizing found with
  | nil => rfl
  | cons d ds ih =>
    obtain ⟨name, d⟩ := d
    rw [List.foldl_cons, ih]
    cases d with
    | scenario m =>
      cases hname : Text.begins start name <;>
        simp [offered, offered?, members, Definitions.isTest, hname]
    | _ => simp [offered, offered?]

/-! ## After each name -/

/-- What a suite keeps of some scenarios agrees with the nodes for them. -/
structure Agree (id : String) (ms found : List Member) (nodes : List Collector) : Prop where
  mem_iff : ∀ m, m ∈ found ↔ m ∈ ms
  ids : (found.map Member.id).Nodup
  conflict_iff : (∃ c ∈ nodes, ∃ e, c.conflict = some e) ↔
    ¬ (found.map fun m => m.scenario.title).Nodup
  nodes_eq : (found.map fun m => m.scenario.title).Nodup → nodes = found.map (collecting id)

variable {id : String} {ms found : List Member} {nodes : List Collector} {m : Member}

theorem Agree.nil : Agree id [] [] [] :=
  ⟨fun _ => Iff.rfl, List.nodup_nil, by simp, fun _ => rfl⟩

/-- One more scenario is there afterwards, dropped or not, and still none is there twice. -/
theorem Agree.keeps (h : Agree id ms found nodes) (hsame : Identified (ms ++ [m])) :
    (∀ k, k ∈ addNew found m ↔ k ∈ ms ++ [m]) ∧ ((addNew found m).map Member.id).Nodup := by
  refine ⟨fun k => ?_, nodup_addNew h.ids m⟩
  have hids : ∀ n ∈ found, n.id = m.id → n = m := fun n hn =>
    hsame n (List.mem_append_left _ ((h.mem_iff n).mp hn)) m (by simp)
  rw [mem_addNew_iff hids, h.mem_iff, List.mem_append, List.mem_singleton]

/-- A scenario with a new title is kept, and its node has no conflict. -/
theorem Agree.new (h : Agree id ms found nodes) (hsame : Identified (ms ++ [m]))
    (hnew : ∀ n ∈ ms, n.scenario.title ≠ m.scenario.title) :
    Agree id (ms ++ [m]) (addNew found m) (nodes ++ [collecting id m]) := by
  obtain ⟨hmem, hids⟩ := h.keeps hsame
  have hold {n : Member} (hn : n ∈ found) : n ∈ ms := (h.mem_iff n).mp hn
  have hadd : addNew found m = found ++ [m] := by
    apply addNew_of_not_any
    intro n hn hid
    obtain rfl := hsame n (List.mem_append_left _ (hold hn)) m (by simp) hid
    exact hnew n (hold hn) rfl
  have htitles : ((addNew found m).map fun m => m.scenario.title).Nodup ↔
      (found.map fun m => m.scenario.title).Nodup := by
    rw [hadd, nodup_map_concat, and_iff_right fun n hn => hnew n (hold hn)]
  refine ⟨hmem, hids, ?_, fun hnodup => ?_⟩
  · rw [htitles, ← h.conflict_iff]
    simp [collecting]
  · rw [h.nodes_eq (htitles.mp hnodup), hadd, List.map_append, List.map_singleton]

/-- The first scenario of its title is passed over when it comes again. -/
theorem Agree.again (h : Agree id ms found nodes) (hsame : Identified (ms ++ [m])) (hm : m ∈ ms) :
    Agree id (ms ++ [m]) (addNew found m) (nodes ++ []) := by
  obtain ⟨hmem, -⟩ := h.keeps hsame
  have hadd : addNew found m = found := addNew_of_any ⟨m, (h.mem_iff m).mpr hm, rfl⟩
  rw [hadd] at hmem ⊢
  rw [List.append_nil]
  exact ⟨hmem, h.ids, h.conflict_iff, h.nodes_eq⟩

/-- A scenario with the title of another one has a conflict, and both are kept. -/
theorem Agree.conflict {n : Member} (h : Agree id ms found nodes)
    (hsame : Identified (ms ++ [m])) (hn : n ∈ ms) (htitle : n.scenario.title = m.scenario.title)
    (hid : n.id ≠ m.id) (name : String) :
    Agree id (ms ++ [m]) (addNew found m) (nodes ++ [conflicting id m name]) := by
  obtain ⟨hmem, hids⟩ := h.keeps hsame
  have htwice : ¬ ((addNew found m).map fun m => m.scenario.title).Nodup := by
    intro hnodup
    have hn' : n ∈ addNew found m := (hmem n).mpr (List.mem_append_left _ hn)
    have hm' : m ∈ addNew found m := (hmem m).mpr (by simp)
    exact hid (congrArg Member.id (List.inj_on_of_nodup_map hnodup hn' hm' htitle))
  refine ⟨hmem, hids, iff_of_true ?_ htwice, fun hnodup => absurd hnodup htwice⟩
  exact ⟨conflicting id m name, by simp, _, rfl⟩

/-- One more scenario. -/
theorem Agree.next (h : Agree id ms found nodes) (htexts : Texts (ms ++ [m]))
    (hsame : Identified (ms ++ [m])) (name : String) :
    Agree id (ms ++ [m]) (addNew found m) (nodes ++ nodesFor id ms name m) := by
  rw [nodesFor]
  cases hn : ofTitle? ms m.scenario.title with
  | none => exact h.new hsame ((Member.ofTitle?_eq_none_iff htexts.left).mp hn)
  | some n =>
    obtain ⟨hfirst, htitle⟩ := (Member.ofTitle?_eq_some_iff htexts.left).mp hn
    by_cases hid : n.id = m.id
    · obtain rfl := hsame n (List.mem_append_left _ hfirst.mem) m (by simp) hid
      simp only [if_true]
      exact h.again hsame hfirst.mem
    · simp only [hid, if_false]
      exact h.conflict hsame hfirst.mem htitle hid name

/-- Any number of names that offer scenarios. -/
theorem Agree.run {calls : List (String × Member)} (h : Agree id ms found nodes)
    (htexts : Texts (ms ++ members calls)) (hsame : Identified (ms ++ members calls)) :
    Agree id (ms ++ members calls) ((members calls).foldl addNew found)
      (nodes ++ (made id ms calls).flatten) := by
  induction calls generalizing ms found nodes with
  | nil => simpa [members, made] using h
  | cons c calls ih =>
    obtain ⟨name, m⟩ := c
    have hsplit : ms ++ members ((name, m) :: calls) = (ms ++ [m]) ++ members calls := by
      rw [members, List.map_cons, List.append_cons]
      rfl
    rw [hsplit] at htexts hsame ⊢
    have hnext := h.next htexts.left (fun k hk n hn => hsame k (List.mem_append_left _ hk) n
      (List.mem_append_left _ hn)) name
    rw [made, List.flatten_cons, ← List.append_assoc]
    exact ih hnext htexts hsame

/-! ## The suite of some scenarios -/

section AddAll

variable {before : List Member} {s : Suite}

theorem addAll_cons (m : Member) (ms : List Member) (s : Suite) :
    addAll (m :: ms) s = s.add m >>= addAll ms := rfl

theorem addAll_of_nodup (htexts : Texts (before ++ ms)) (hs : s.members = titled before)
    (hnodup : ((before ++ ms).map fun m => m.scenario.title).Nodup) (t : Trace) :
    addAll ms s t = (.ok { s with members := titled (before ++ ms) }, t) := by
  induction ms generalizing before s with
  | nil =>
    rw [List.append_nil, ← hs]
    rfl
  | cons m ms ih =>
    rw [List.append_cons] at htexts hnodup ⊢
    have hnew : s.members.get? m.scenario.title = none := by
      rw [hs, Member.get?_titled, Member.ofTitle?_eq_none_iff htexts.left.left]
      rw [List.map_append] at hnodup
      exact ((nodup_map_concat _ before m).mp hnodup.of_append_left).1
    rw [addAll_cons, Session.bind_run_ok (Suite.add_of_new htexts.left.right.head hnew t)]
    exact ih htexts (by rw [hs, titled, titled, List.map_append, List.map_singleton]) hnodup

theorem addAll_of_not_nodup (htexts : Texts (before ++ ms)) (hs : s.members = titled before)
    (hbefore : (before.map fun m => m.scenario.title).Nodup)
    (hnodup : ¬ ((before ++ ms).map fun m => m.scenario.title).Nodup) (t : Trace) :
    ∃ e t', addAll ms s t = (.error (.specification e), t') := by
  induction ms generalizing before s with
  | nil =>
    rw [List.append_nil] at hnodup
    exact absurd hbefore hnodup
  | cons m ms ih =>
    rw [List.append_cons] at htexts hnodup
    cases hm : s.members.get? m.scenario.title with
    | none =>
      rw [addAll_cons, Session.bind_run_ok (Suite.add_of_new htexts.left.right.head hm t)]
      rw [hs, Member.get?_titled, Member.ofTitle?_eq_none_iff htexts.left.left] at hm
      exact ih htexts (by rw [hs, titled, titled, List.map_append, List.map_singleton])
        ((nodup_map_concat _ before m).mpr ⟨hm, hbefore⟩) hnodup
    | some n =>
      obtain ⟨t', hadd⟩ := Suite.add_of_taken htexts.left.right.head hm t
      exact ⟨_, t', by rw [addAll_cons, Session.bind_run_error hadd]⟩

end AddAll

/-- A suite of a module is that of what its names offer, after one line in the log. -/
theorem ofModule_run (config : Option Config) (start moduleName : String) (ds : Definitions)
    (t : Trace) :
    ∃ u, Suite.ofModule config (some start) moduleName ds t =
      addAll ((members (offered (Text.begins start) ds)).foldl addNew [])
        (Suite.empty config) u := by
  rw [← scenarios_eq]
  exact ⟨_, Session.bind_run_ok rfl⟩

/-! ## Both ways -/

/--
The suite of a module and what a host answers to its names, in order. The host always answers; the
suite fails, as for a malformed scenario, just if a node has a conflict. Otherwise it has the
scenarios of the nodes in order: all that names of tests offer, each one once, under its own title.
-/
theorem ofModule_agrees (config : Option Config) (id moduleName : String) {ds : Definitions}
    (htexts : Texts (members (offered (host id).accepts ds)))
    (hsame : Identified (members (offered (host id).accepts ds))) (t u : Trace) :
    ∃ found h' t', answers (host id) ds t = (.ok (found, h'), t') ∧
      ((∃ e u', Suite.ofModule config (some testPrefix) moduleName ds u =
          (.error (.specification e), u')) ↔
        ∃ c ∈ found.reduceOption.flatten, ∃ e, c.conflict = some e) ∧
      ((¬ ∃ e u', Suite.ofModule config (some testPrefix) moduleName ds u =
          (.error (.specification e), u')) →
        ∃ s u' ms, Suite.ofModule config (some testPrefix) moduleName ds u = (.ok s, u') ∧
          s.config = config ∧ s.members = titled ms ∧
          found.reduceOption.flatten = ms.map (collecting id) ∧
          s.scenarios = found.reduceOption.flatten.map Collector.scenario ∧
          (ms.map Member.id).Nodup ∧
          ∀ m, m ∈ ms ↔ m ∈ members (offered (host id).accepts ds)) := by
  have hall : Texts ([] ++ members (offered (host id).accepts ds)) := htexts
  obtain ⟨found, t', hrun, -, hmade⟩ := answers_run hall rfl t
  have hagree : Agree id (members (offered (host id).accepts ds))
      ((members (offered (host id).accepts ds)).foldl addNew []) found.reduceOption.flatten := by
    rw [hmade]
    exact Agree.nil.run htexts hsame
  obtain ⟨v, hsuite⟩ := ofModule_run config testPrefix moduleName ds u
  have hkept : Texts ([] ++ (members (offered (host id).accepts ds)).foldl addNew []) :=
    fun m hm => htexts m ((hagree.mem_iff m).mp hm)
  refine ⟨found, _, t', hrun, ?_⟩
  rw [hagree.conflict_iff, hsuite]
  by_cases hnodup : (((members (offered (host id).accepts ds)).foldl addNew []).map
      fun m => m.scenario.title).Nodup
  · have hadd := addAll_of_nodup (s := Suite.empty config) hkept rfl hnodup v
    refine ⟨iff_of_false ?_ (not_not.mpr hnodup), fun _ => ?_⟩
    · rintro ⟨e, u', herror⟩
      cases hadd.symm.trans herror
    · have hnodes := hagree.nodes_eq hnodup
      refine ⟨_, v, _, hadd, rfl, rfl, hnodes, ?_, hagree.ids, hagree.mem_iff⟩
      rw [hnodes, List.map_map, Suite.scenarios, titled, List.map_map]
      rfl
  · obtain ⟨e, u', herror⟩ := addAll_of_not_nodup (s := Suite.empty config) hkept rfl
      List.nodup_nil hnodup v
    have hfails : ∃ e u', addAll ((members (offered (host id).accepts ds)).foldl addNew [])
        (Suite.empty config) v = (.error (.specification e), u') := ⟨e, u', herror⟩
    exact ⟨iff_of_true hfails hnodup, fun hno => absurd hfails hno⟩

/-- A scenario under two names of tests, and another one of its title under no such name. -/
def helperGrids : Definitions :=
  [("test_a", .scenario firstGrid), ("helper", .scenario laterGrid),
    ("test_b", .scenario firstGrid)]

/-- Both ways find the one scenario that has names of tests. -/
theorem ofModule_helperGrids :
    ∃ found h' t' s u', answers (host "m") helperGrids default = (.ok (found, h'), t') ∧
      Suite.ofModule none (some testPrefix) "m" helperGrids default = (.ok s, u') ∧
      (∀ c ∈ found.reduceOption.flatten, c.conflict = none) ∧
      s.scenarios = found.reduceOption.flatten.map Collector.scenario ∧
      s.scenarios = [firstGrid.scenario] := by
  have hsubset : members (offered (host "m").accepts helperGrids) ⊆ [firstGrid, laterGrid] := by
    simp [show members (offered (host "m").accepts helperGrids) = [firstGrid, firstGrid] from rfl]
  have hsuite : ∃ s u', Suite.ofModule none (some testPrefix) "m" helperGrids default =
      (.ok s, u') ∧ s.scenarios = [firstGrid.scenario] := ⟨_, _, rfl, rfl⟩
  obtain ⟨s, u', hmade, hone⟩ := hsuite
  obtain ⟨found, h', t', hrun, hfails, hagrees⟩ := ofModule_agrees none "m" "m"
    (texts_grids hsubset) (identified_grids hsubset) default default
  have hreturns : ¬ ∃ e u', Suite.ofModule none (some testPrefix) "m" helperGrids default =
      (.error (.specification e), u') := by
    rintro ⟨e, u'', herror⟩
    cases hmade.symm.trans herror
  obtain ⟨s', u'', ms, hmade', -, -, -, hscenarios, -⟩ := hagrees hreturns
  cases hmade.symm.trans hmade'
  refine ⟨found, h', t', s, u', hrun, hmade, fun c hc => ?_, hscenarios, hone⟩
  by_contra hconflict
  exact hreturns (hfails.mpr ⟨c, hc, Option.ne_none_iff_exists'.mp hconflict⟩)

end Collection

end CaseGrid
