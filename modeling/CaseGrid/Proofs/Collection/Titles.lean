import CaseGrid.Collection
import CaseGrid.Proofs.Expansion.Outcome
import CaseGrid.Proofs.Suite.Titles
import Mathlib.Data.List.ReduceOption

/-
  What a host answers to names that are offered to it one after the other. The host remembers one
  scenario for each title, the first one that was offered, and answers by it: that scenario is
  collected once, and any other one of its title fails each time that it is offered.

  Proved: one name (`answer_run`), any number of them (`answers_run`), which nodes belong to one
  scenario (`nodesOf_made`), and from these how often each scenario is collected
  (`answers_collect`). A scenario has more than one node just if it was offered several times
  while another one was the first of its title.
-/

namespace CaseGrid

namespace Collection

open Expansion (gridOf)
open Member (news titled ofTitle? Texts First Identified)

/-! ## Names, one after the other -/

/-- What a host answers to some names. -/
def answers (h : Host) : Definitions → Session (List (Option (List Collector)) × Host)
  | [] => Session.pure ([], h)
  | (name, d) :: ds =>
    Session.bind (answer h name d) fun (nodes, h') =>
      Session.bind (answers h' ds) fun (others, h'') => Session.pure (nodes :: others, h'')

/-- The scenario that a name offers to a host. -/
def offered? (accepts : String → Bool) (d : String × Definition) : Option Member :=
  match d.2 with
  | .scenario m => if accepts d.1 then some m else none
  | _ => none

/-- The names that offer scenarios to a host, with these. -/
def offered (accepts : String → Bool) (ds : Definitions) : List (String × Member) :=
  ds.filterMap fun d => (offered? accepts d).map fun m => (d.1, m)

/-- The node of a scenario that is collected. -/
def collecting (id : String) (m : Member) : Collector :=
  ⟨nodeId id m.scenario.title.label, m.scenario, none⟩

/-- The node of a scenario that is not collected, because its title is that of another one. -/
def conflicting (id : String) (m : Member) (name : String) : Collector :=
  ⟨nodeId id m.scenario.title.label, m.scenario, some (conflictOf m.scenario.title name)⟩

/-- The nodes for a scenario, where some others were offered before. -/
def nodesFor (id : String) (before : List Member) (name : String) (m : Member) : List Collector :=
  match ofTitle? before m.scenario.title with
  | none => [collecting id m]
  | some n => if n.id = m.id then [] else [conflicting id m name]

/-- The nodes for each of some scenarios, where some others were offered before. -/
def made (id : String) (before : List Member) : List (String × Member) → List (List Collector)
  | [] => []
  | (name, m) :: calls => nodesFor id before name m :: made id (before ++ [m]) calls

variable {h : Host} {before : List Member} {name : String} {m : Member}

theorem title_run (hm : m.scenario.title.IsText) (t : Trace) :
    Session.ofFault m.scenario.title.key t = (.ok m.scenario.title, t) := by
  rw [hm.key]
  rfl

theorem makeNodes_of_new (hm : m.scenario.title.IsText)
    (hnew : h.found.get? m.scenario.title = none) (t : Trace) :
    makeNodes h name m t =
      (.ok ([collecting h.id m], { h with found := h.found ++ [(m.scenario.title, m)] }), t) := by
  rw [makeNodes, Session.bind_run_ok (title_run hm t)]
  simp only [hnew]
  rfl

theorem makeNodes_of_same {n : Member} (hm : m.scenario.title.IsText)
    (hn : h.found.get? m.scenario.title = some n) (hid : n.id = m.id) (t : Trace) :
    makeNodes h name m t = (.ok ([], h), t) := by
  rw [makeNodes, Session.bind_run_ok (title_run hm t)]
  simp only [hn, hid, if_true]
  rfl

theorem makeNodes_of_other {n : Member} (hm : m.scenario.title.IsText)
    (hn : h.found.get? m.scenario.title = some n) (hid : n.id ≠ m.id) (t : Trace) :
    ∃ t', makeNodes h name m t = (.ok ([conflicting h.id m name], h), t') := by
  rw [makeNodes, Session.bind_run_ok (title_run hm t)]
  simp only [hn, hid, if_false]
  exact ⟨_, rfl⟩

/-- One scenario, offered to a host that remembers the first of each title. -/
theorem makeNodes_run (htexts : Texts (before ++ [m])) (hfound : h.found = titled (news [] before))
    (name : String) (t : Trace) :
    ∃ t', makeNodes h name m t =
      (.ok (nodesFor h.id before name m, { h with found := titled (news [] (before ++ [m])) }),
        t') := by
  have hm := htexts.right.head
  have hget : h.found.get? m.scenario.title = ofTitle? before m.scenario.title := by
    rw [hfound, Member.get?_titled_news htexts.left]
  rw [Member.news_concat, List.nil_append]
  cases hn : ofTitle? before m.scenario.title with
  | none =>
    refine ⟨t, ?_⟩
    rw [hn] at hget
    rw [makeNodes_of_new hm hget, hfound]
    simp [nodesFor, hn, titled]
  | some n =>
    rw [hn] at hget
    have hsame : { h with found := titled (news [] before) } = h := by rw [← hfound]
    simp only [nodesFor, hn, Option.isSome_some, if_true, hsame]
    by_cases hid : n.id = m.id
    · rw [if_pos hid]
      exact ⟨t, makeNodes_of_same hm hget hid t⟩
    · rw [if_neg hid]
      exact makeNodes_of_other hm hget hid t

theorem offered?_eq_some_iff {accepts : String → Bool} {d : Definition} :
    offered? accepts (name, d) = some m ↔ d = .scenario m ∧ accepts name = true := by
  cases d <;> simp [offered?, and_comm]

/-- A name that offers no scenario is passed over. -/
theorem answer_of_none {d : Definition} (hd : offered? h.accepts (name, d) = none) (t : Trace) :
    answer h name d t = (.ok (none, h), t) := by
  cases d with
  | scenario m =>
    have haccepts : h.accepts name = false := by simpa [offered?] using hd
    rw [answer, haccepts]
    rfl
  | _ => rfl

/-- A name that offers a scenario is answered by the first of each title. -/
theorem answer_of_some {d : Definition} (hd : offered? h.accepts (name, d) = some m)
    (htexts : Texts (before ++ [m])) (hfound : h.found = titled (news [] before)) (t : Trace) :
    ∃ t', answer h name d t =
      (.ok (some (nodesFor h.id before name m),
        { h with found := titled (news [] (before ++ [m])) }), t') := by
  obtain ⟨rfl, haccepts⟩ := offered?_eq_some_iff.mp hd
  obtain ⟨t', hrun⟩ := makeNodes_run htexts hfound name t
  refine ⟨t', ?_⟩
  rw [answer, haccepts]
  exact Session.bind_run_ok hrun

/-- The scenarios that some names offer. -/
def members (calls : List (String × Member)) : List Member :=
  calls.map Prod.snd

theorem answers_cons (h : Host) (name : String) (d : Definition) (ds : Definitions) :
    answers h ((name, d) :: ds) = answer h name d >>= fun (nodes, h') =>
      answers h' ds >>= fun (others, h'') => pure (nodes :: others, h'') := rfl

/-- Any number of names, offered to a host that remembers the first of each title. -/
theorem answers_run {ds : Definitions}
    (htexts : Texts (before ++ members (offered h.accepts ds)))
    (hfound : h.found = titled (news [] before)) (t : Trace) :
    ∃ found t', answers h ds t =
        (.ok (found, { h with
          found := titled (news [] (before ++ members (offered h.accepts ds))) }), t') ∧
      (found.map Option.isSome = ds.map fun d => (offered? h.accepts d).isSome) ∧
      found.reduceOption = made h.id before (offered h.accepts ds) := by
  induction ds generalizing h before t with
  | nil =>
    refine ⟨[], t, ?_, rfl, rfl⟩
    simp only [offered, List.filterMap_nil, members, List.map_nil, List.append_nil, ← hfound]
    rfl
  | cons d ds ih =>
    obtain ⟨name, d⟩ := d
    cases hd : offered? h.accepts (name, d) with
    | none =>
      have hrest : offered h.accepts ((name, d) :: ds) = offered h.accepts ds := by
        rw [offered, List.filterMap_cons_none (by rw [hd]; rfl)]
        rfl
      rw [hrest] at htexts ⊢
      obtain ⟨found, t', hrun, hsome, hmade⟩ := ih htexts hfound t
      refine ⟨none :: found, t', ?_, ?_, ?_⟩
      · rw [answers_cons, Session.bind_run_ok (answer_of_none hd t)]
        exact Session.bind_run_ok hrun
      · rw [List.map_cons, List.map_cons, hd, hsome]
        rfl
      · rw [List.reduceOption_cons_of_none, hmade]
    | some m =>
      have hrest : offered h.accepts ((name, d) :: ds) = (name, m) :: offered h.accepts ds := by
        rw [offered, List.filterMap_cons_some (by rw [hd]; rfl)]
        rfl
      have hsplit : before ++ members (offered h.accepts ((name, d) :: ds)) =
          (before ++ [m]) ++ members (offered h.accepts ds) := by
        rw [hrest, members, List.map_cons, List.append_cons]
        rfl
      rw [hsplit] at htexts
      obtain ⟨t₁, hanswer⟩ := answer_of_some hd htexts.left hfound t
      obtain ⟨found, t₂, hrun, hsome, hmade⟩ :=
        ih (h := { h with found := titled (news [] (before ++ [m])) }) htexts rfl t₁
      refine ⟨some (nodesFor h.id before name m) :: found, t₂, ?_, ?_, ?_⟩
      · rw [answers_cons, Session.bind_run_ok hanswer, hsplit]
        exact Session.bind_run_ok hrun
      · rw [List.map_cons, List.map_cons, hd, hsome]
        rfl
      · rw [List.reduceOption_cons_of_some, hmade, hrest, made]

/-! ## The nodes of one scenario -/

/-- The nodes of a scenario, among those for some names that offer scenarios. -/
def nodesOf (m : Member) (calls : List (String × Member)) (nodes : List (List Collector)) :
    List Collector :=
  ((calls.zip nodes).filter fun c => c.1.2.id == m.id).flatMap Prod.snd

/-- The names that offer a scenario. -/
def callsOf (m : Member) (calls : List (String × Member)) : List (String × Member) :=
  calls.filter fun c => c.2.id == m.id

theorem nodesOf_cons (m : Member) (name : String) (n : Member) (calls : List (String × Member))
    (ns : List Collector) (nodes : List (List Collector)) :
    nodesOf m ((name, n) :: calls) (ns :: nodes) =
      (if n.id = m.id then ns else []) ++ nodesOf m calls nodes := by
  by_cases hid : n.id = m.id <;> simp [nodesOf, hid]

theorem callsOf_cons (m : Member) (name : String) (n : Member) (calls : List (String × Member)) :
    callsOf m ((name, n) :: calls) =
      (if n.id = m.id then [(name, n)] else []) ++ callsOf m calls := by
  by_cases hid : n.id = m.id <;> simp [callsOf, hid]

section Made

variable {id : String} {calls : List (String × Member)}

/-- Once there is a first scenario of its title, a scenario is passed over or fails, always the
same way. -/
theorem nodesOf_made_of_taken {n : Member} (hsame : ∀ k ∈ members calls, k.id = m.id → k = m)
    (hn : ofTitle? before m.scenario.title = some n) :
    nodesOf m calls (made id before calls) =
      if n.id = m.id then [] else (callsOf m calls).map fun c => conflicting id m c.1 := by
  induction calls generalizing before with
  | nil => simp [nodesOf, callsOf]
  | cons c calls ih =>
    obtain ⟨name, k⟩ := c
    have hstill : ofTitle? (before ++ [k]) m.scenario.title = some n := by
      rw [Member.ofTitle?_concat, hn, Option.some_or]
    rw [made, nodesOf_cons, callsOf_cons, ih (fun j hj => hsame j (.tail _ hj)) hstill]
    by_cases hid : k.id = m.id
    · obtain rfl := hsame k List.mem_cons_self hid
      simp only [if_true, nodesFor, hn]
      split <;> rfl
    · simp only [hid, if_false, List.nil_append]

/-- Where no scenario of its title came before, the first of the title is collected once, and any
other one fails each time. -/
theorem nodesOf_made_of_new (hm : m.scenario.title.IsText)
    (hsame : ∀ k ∈ members calls, k.id = m.id → k = m)
    (hnew : ofTitle? before m.scenario.title = none) :
    nodesOf m calls (made id before calls) =
      match ofTitle? (members calls) m.scenario.title with
      | none => []
      | some n =>
        if n.id = m.id then [collecting id m]
        else (callsOf m calls).map fun c => conflicting id m c.1 := by
  induction calls generalizing before with
  | nil => rfl
  | cons c calls ih =>
    obtain ⟨name, k⟩ := c
    have hrest : ∀ j ∈ members calls, j.id = m.id → j = m := fun j hj => hsame j (.tail _ hj)
    rw [made, nodesOf_cons, callsOf_cons, members, List.map_cons, ofTitle?, List.find?_cons]
    -- either this name offers the first scenario of the title, or nothing is settled yet
    cases halike : k.scenario.title.alike m.scenario.title with
    | true =>
      have hfirst : ofTitle? (before ++ [k]) m.scenario.title = some k := by
        rw [Member.ofTitle?_concat, hnew, halike]
        rfl
      rw [nodesOf_made_of_taken hrest hfirst]
      by_cases hid : k.id = m.id
      · obtain rfl := hsame k List.mem_cons_self hid
        simp only [if_true, nodesFor, hnew, List.append_nil]
      · simp only [hid, if_false, List.nil_append]
    | false =>
      have hstill : ofTitle? (before ++ [k]) m.scenario.title = none := by
        rw [Member.ofTitle?_concat, hnew, halike]
        rfl
      have hid : k.id ≠ m.id := by
        intro hid
        rw [hsame k List.mem_cons_self hid, hm.alike_iff.mpr rfl] at halike
        cases halike
      rw [ih hrest hstill]
      simp only [hid, if_false, List.nil_append]
      rfl

/-- The first scenario of its title is collected once. -/
theorem nodesOf_made_of_first (htexts : Texts (members calls))
    (hsame : Identified (members calls)) (hfirst : First (members calls) m) :
    nodesOf m calls (made id [] calls) = [collecting id m] := by
  have hm := hfirst.mem
  have hown : ofTitle? (members calls) m.scenario.title = some m :=
    (Member.ofTitle?_eq_some_iff htexts).mpr ⟨hfirst, rfl⟩
  rw [nodesOf_made_of_new (htexts m hm) (fun k hk => hsame k hk m hm) rfl, hown]
  exact if_pos rfl

/-- Any other scenario fails each time that it is offered. -/
theorem nodesOf_made_of_later (htexts : Texts (members calls))
    (hsame : Identified (members calls)) (hm : m ∈ members calls)
    (hlater : ¬ First (members calls) m) :
    nodesOf m calls (made id [] calls) = (callsOf m calls).map fun c => conflicting id m c.1 := by
  rw [nodesOf_made_of_new (htexts m hm) (fun k hk => hsame k hk m hm) rfl]
  cases hn : ofTitle? (members calls) m.scenario.title with
  | none => exact absurd rfl ((Member.ofTitle?_eq_none_iff htexts).mp hn m hm)
  | some n =>
    have hfirst := ((Member.ofTitle?_eq_some_iff htexts).mp hn).1
    refine if_neg fun hid => hlater ?_
    rwa [← hsame n hfirst.mem m hm hid]

theorem length_made (before : List Member) : (made id before calls).length = calls.length := by
  induction calls generalizing before with
  | nil => rfl
  | cons c calls ih => rw [made, List.length_cons, List.length_cons, ih]

theorem callsOf_ne_nil (hm : m ∈ members calls) : callsOf m calls ≠ [] := by
  obtain ⟨c, hc, rfl⟩ := List.mem_map.mp hm
  refine List.ne_nil_of_mem (a := c) ?_
  simp [callsOf, hc]

/-! ## How often a scenario is collected -/

/-- Of the scenarios of a title just the first one is collected, once; any other one fails as often
as it is offered. -/
structure CollectsFirst (id : String) (calls : List (String × Member))
    (nodes : List (List Collector)) : Prop where
  length : nodes.length = calls.length
  existsUnique_first : ∀ m ∈ members calls,
    ∃! n, First (members calls) n ∧ n.scenario.title = m.scenario.title
  first : ∀ m, First (members calls) m → nodesOf m calls nodes = [collecting id m]
  later : ∀ m ∈ members calls, ¬ First (members calls) m →
    nodesOf m calls nodes = (callsOf m calls).map fun c => conflicting id m c.1
  once_iff : (∀ m ∈ members calls, (nodesOf m calls nodes).length ≤ 1) ↔
    ∀ m ∈ members calls, ¬ First (members calls) m → (callsOf m calls).length = 1

theorem collectsFirst_made (htexts : Texts (members calls)) (hsame : Identified (members calls)) :
    CollectsFirst id calls (made id [] calls) := by
  refine ⟨length_made [], fun m hm => Member.existsUnique_first htexts hm,
    fun m hfirst => nodesOf_made_of_first htexts hsame hfirst,
    fun m hm hlater => nodesOf_made_of_later htexts hsame hm hlater, ?_⟩
  refine forall₂_congr fun m hm => ?_
  by_cases hfirst : First (members calls) m
  · rw [nodesOf_made_of_first htexts hsame hfirst]
    simp [hfirst]
  · have hpos := List.length_pos_iff.mpr (callsOf_ne_nil hm)
    rw [nodesOf_made_of_later htexts hsame hm hfirst, List.length_map]
    simp only [hfirst, not_false_eq_true, forall_true_left]
    omega

end Made

/--
What a host that found nothing yet answers to any names. It always answers, with nodes just for the
names that offer scenarios. Of the scenarios of one title the first one that is offered has one
node, without a conflict, under whichever names it is offered again; any other one has a node with
a conflict for each name that offers it. So each scenario has at most one node just if none is
offered twice that is not the first of its title.
-/
theorem answers_collect {h : Host} {ds : Definitions} (hnew : h.found = [])
    (htexts : Texts (members (offered h.accepts ds)))
    (hsame : Identified (members (offered h.accepts ds))) (t : Trace) :
    ∃ found h' t', answers h ds t = (.ok (found, h'), t') ∧
      (found.map Option.isSome = ds.map fun d => (offered? h.accepts d).isSome) ∧
      CollectsFirst h.id (offered h.accepts ds) found.reduceOption := by
  have hall : Texts ([] ++ members (offered h.accepts ds)) := htexts
  obtain ⟨found, t', hrun, hsome, hmade⟩ := answers_run hall hnew t
  refine ⟨found, _, t', hrun, hsome, ?_⟩
  rw [hmade]
  exact collectsFirst_made htexts hsame

/-- A scenario that comes first of its title. -/
def firstGrid : Member := ⟨0, gridOf 1 1⟩

/-- Another scenario of the same title. -/
def laterGrid : Member := ⟨1, gridOf 1 2⟩

theorem texts_grids {ms : List Member} (h : ms ⊆ [firstGrid, laterGrid]) : Texts ms := by
  intro m hm
  have hm := h hm
  fin_cases hm <;> exact Value.isText_text "t"

theorem identified_grids {ms : List Member} (h : ms ⊆ [firstGrid, laterGrid]) :
    Identified ms := by
  intro m hm n hn hid
  have hm := h hm
  have hn := h hn
  fin_cases hm <;> fin_cases hn <;> first | rfl | cases hid

/-- Two scenarios of one title, the first of them under two names. -/
def aliasedGrids : Definitions :=
  [("test_a", .scenario firstGrid), ("test_b", .scenario laterGrid),
    ("test_c", .scenario firstGrid), ("test_d", .other)]

/-- The first one is collected once, and the other one fails. -/
theorem answers_aliasedGrids :
    ∃ found h' t', answers (host "m") aliasedGrids default = (.ok (found, h'), t') ∧
      found.map Option.isSome = [true, true, true, false] ∧
      nodesOf firstGrid (offered (host "m").accepts aliasedGrids) found.reduceOption =
        [collecting "m" firstGrid] ∧
      nodesOf laterGrid (offered (host "m").accepts aliasedGrids) found.reduceOption =
        [conflicting "m" laterGrid "test_b"] := by
  have hmembers : members (offered (host "m").accepts aliasedGrids) =
      [firstGrid, laterGrid, firstGrid] := rfl
  have hsubset : members (offered (host "m").accepts aliasedGrids) ⊆ [firstGrid, laterGrid] := by
    simp [hmembers]
  obtain ⟨found, h', t', hrun, hsome, hcollects⟩ :=
    answers_collect rfl (texts_grids hsubset) (identified_grids hsubset) default
  have hfirst : First (members (offered (host "m").accepts aliasedGrids)) firstGrid :=
    ⟨[], _, rfl, nofun⟩
  have hmem : laterGrid ∈ members (offered (host "m").accepts aliasedGrids) := by simp [hmembers]
  have hlater : ¬ First (members (offered (host "m").accepts aliasedGrids)) laterGrid := by
    intro h
    have heq := (hcollects.existsUnique_first laterGrid hmem).unique ⟨h, rfl⟩ ⟨hfirst, rfl⟩
    exact absurd (congrArg Member.id heq) (by decide)
  exact ⟨found, h', t', hrun, hsome, hcollects.first firstGrid hfirst,
    hcollects.later laterGrid hmem hlater⟩

/-- Two scenarios of one title, the second of them under two names. -/
def repeatedGrids : Definitions :=
  [("test_a", .scenario firstGrid), ("test_b", .scenario laterGrid),
    ("test_c", .scenario laterGrid)]

/-- The second one has a node for each of its names. -/
theorem answers_repeatedGrids :
    ∃ found h' t', answers (host "m") repeatedGrids default = (.ok (found, h'), t') ∧
      nodesOf laterGrid (offered (host "m").accepts repeatedGrids) found.reduceOption =
        [conflicting "m" laterGrid "test_b", conflicting "m" laterGrid "test_c"] := by
  have htexts : Texts ([] ++ members (offered (host "m").accepts repeatedGrids)) :=
    texts_grids (by simp [show members (offered (host "m").accepts repeatedGrids) =
      [firstGrid, laterGrid, laterGrid] from rfl])
  obtain ⟨found, t', hrun, -, hmade⟩ := answers_run htexts rfl default
  refine ⟨found, _, t', hrun, ?_⟩
  rw [hmade]
  rfl

end Collection

end CaseGrid
