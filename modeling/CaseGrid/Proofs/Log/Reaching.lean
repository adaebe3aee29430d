import CaseGrid.Proofs.Log.History

/-
  Which records come to the handler of the program's logger. A record of a logger that belongs to
  the program's one, directly or through others, comes to it just if it is as severe as the
  program's logger asks: no logger between has a level, and the handler asks for no more.

  A logger need not belong to the program's one, though its name begins with the program's: what
  stands before two points in a row is above a name only from the second point on. Which do is said
  by the number of points after the program's name alone (`Joins`): the way up leads from bare names
  to bare names with an odd number of points less, and ends at the program if the shortest of them
  that exists, or the name itself where none does, has an odd number.

  Proved: `mem_lineage_iff`, by induction on the length of names, and from it with the invariant of
  histories `after_settles_and_reaches`.
-/

namespace CaseGrid.Log.Registry

open Logger (ancestors)

/-- Whether a logger whose name goes on with `k` points after the program's belongs to it: there is
no further point, or the least number of points among the bare names that exist below `k` points,
and `k` itself, is odd. -/
def Joins (g : Registry) (k : Nat) : Prop :=
  k = 0 ∨ ∃ m, m ≤ k ∧ m % 2 = 1 ∧ (m = k ∨ Known g.loggers (pointed m)) ∧
    ∀ i, 0 < i → i < m → ¬ Known g.loggers (pointed i)

section

variable {g : Registry} {k : Nat}

/-! ## From one bare name to the next -/

theorem exists_least_known {j : Nat} (hj : 0 < j) (hknown : Known g.loggers (pointed j)) :
    ∃ m, 0 < m ∧ m ≤ j ∧ Known g.loggers (pointed m) ∧
      ∀ i, 0 < i → i < m → ¬ Known g.loggers (pointed i) := by
  induction j using Nat.strong_induction_on with
  | _ j ih =>
    by_cases hless : ∃ i, 0 < i ∧ i < j ∧ Known g.loggers (pointed i)
    · obtain ⟨i, hi, hij, hk⟩ := hless
      obtain ⟨m, hm, hmi, hrest⟩ := ih i hij hi hk
      exact ⟨m, hm, by omega, hrest⟩
    · exact ⟨j, hj, le_rfl, hknown, fun i hi hij hk => hless ⟨i, hi, hij, hk⟩⟩

/-- The way up leads over the nearest bare name with an odd number of points less. -/
theorem joins_iff_of_nearest {j : Nat} (hj : j < k) (hodd : (k - j) % 2 = 1)
    (hknown : Known g.loggers (pointed j))
    (hnearest : ∀ i, i < k → (k - i) % 2 = 1 → Known g.loggers (pointed i) → i ≤ j) :
    g.Joins k ↔ g.Joins j := by
  constructor
  · rintro (hk | ⟨m, hmk, hm, hmknown, hleast⟩)
    · omega
    · by_cases hzero : j = 0
      · exact .inl hzero
      · have hmj : m ≤ j := by
          by_contra hlt
          exact hleast j (by omega) (by omega) hknown
        have hmj' : m = j ∨ Known g.loggers (pointed m) :=
          .inr (hmknown.resolve_left (by omega))
        exact .inr ⟨m, hmj, hm, hmj', hleast⟩
  · rintro (rfl | ⟨m, hmj, hm, hmknown, hleast⟩)
    · by_cases hless : ∃ i, 0 < i ∧ i < k ∧ Known g.loggers (pointed i)
      · obtain ⟨i, hi, hik, hk⟩ := hless
        obtain ⟨m, hm, hmi, hmknown, hleast⟩ := exists_least_known hi hk
        refine .inr ⟨m, by omega, ?_, .inr hmknown, hleast⟩
        by_contra heven
        have := hnearest m (by omega) (by omega) hmknown
        omega
      · exact .inr ⟨k, le_rfl, by omega, .inl rfl, fun i hi hik hk => hless ⟨i, hi, hik, hk⟩⟩
    · have hmknown' : Known g.loggers (pointed m) := by
        rcases hmknown with rfl | h
        · exact hknown
        · exact h
      exact .inr ⟨m, by omega, hm, .inr hmknown', hleast⟩

theorem not_joins_of_none (hprogram : Known g.loggers program) (hk : 0 < k)
    (hnone : ∀ i, i < k → (k - i) % 2 = 1 → ¬ Known g.loggers (pointed i)) : ¬ g.Joins k := by
  have heven : (k - 0) % 2 ≠ 1 := fun hodd => hnone 0 hk hodd (by rw [pointed_zero]; exact hprogram)
  rintro (hzero | ⟨m, hmk, hm, rfl | hmknown, -⟩)
  · omega
  · omega
  · have hne : m ≠ k := by
      rintro rfl
      omega
    exact hnone m (by omega) (by omega) hmknown

/-! ## Which loggers belong to the program's one -/

theorem GoesOn.ne_program {name : String} (h : GoesOn name k) (hk : 0 < k) : name ≠ program := by
  rintro rfl
  obtain ⟨rest, hname, -⟩ := h
  have := congrArg List.length hname
  simp only [List.length_append, List.length_replicate] at this
  omega

theorem lineageFrom_succ (h : Linked g.loggers) {l : Logger} (hl : l ∈ g.loggers) (fuel : Nat) :
    g.lineageFrom (fuel + 1) l.name =
      match l.above with
      | some p => l.name :: g.lineageFrom fuel p
      | none => [l.name] := by
  rw [lineageFrom, logger?_of_mem h hl]
  rfl

/-- Going up from a logger leads to the program's one just if the points of its name say so. -/
theorem mem_lineageFrom_iff (h : Linked g.loggers) {fuel : Nat} {l : Logger} (hl : l ∈ g.loggers)
    (hfuel : l.name.toList.length ≤ fuel) (hk : GoesOn l.name k) :
    program ∈ g.lineageFrom fuel l.name ↔ g.Joins k := by
  induction fuel generalizing l k with
  | zero =>
    have hlength := hk.begins.length_le
    have hprogram : 0 < program.toList.length := by decide
    omega
  | succ fuel ih =>
    rw [lineageFrom_succ h hl]
    rcases Nat.eq_zero_or_pos k with rfl | hpos
    · have hname := hk.eq_program
      have hhead : program ∈ match l.above with
          | some p => l.name :: g.lineageFrom fuel p
          | none => [l.name] := by
        split <;> rw [hname] <;> exact List.mem_cons_self
      exact iff_of_true hhead (.inl rfl)
    · have hne : program ≠ l.name := (GoesOn.ne_program hk hpos).symm
      have hnearest := h.above l hl
      match habove : l.above with
      | none =>
        rw [habove] at hnearest
        refine iff_of_false (fun hmem => hne (List.mem_singleton.mp hmem)) ?_
        exact not_joins_of_none h.ofProgram hpos fun i hi hodd =>
          hnearest _ (Logger.pointed_mem_ancestors hk hi hodd)
      | some p =>
        rw [habove] at hnearest
        obtain ⟨hp, ⟨l', hl', rfl⟩, hlongest⟩ := hnearest
        have hfuel' : l'.name.toList.length ≤ fuel := by
          have := (Logger.mem_ancestors hp).2
          omega
        dsimp only
        rw [List.mem_cons, or_iff_right hne]
        rcases Logger.ancestor_cases hk hp with hsame | ⟨j, hj, hodd, hname⟩
        · exact ih hl' hfuel' hsame
        · rw [ih hl' hfuel' (hname ▸ goesOn_pointed j)]
          refine (joins_iff_of_nearest hj hodd (hname ▸ ⟨l', hl', rfl⟩) ?_).symm
          intro i hi hiodd hknown
          have := hlongest _ (Logger.pointed_mem_ancestors hk hi hiodd) hknown
          rw [hname, pointed, pointed] at this
          simpa using this

theorem lineage_of_own {name : String} (hown : IsOwn name) :
    g.lineage name = g.lineageFrom name.length name := by
  rw [lineage, hown.isRoot_eq_false, if_neg Bool.false_ne_true]

theorem mem_lineage_iff (h : Linked g.loggers) {l : Logger} (hl : l ∈ g.loggers) :
    program ∈ g.lineage l.name ↔ g.Joins (pointsAfter l.name) := by
  rw [lineage_of_own (h.own l hl)]
  exact mem_lineageFrom_iff h hl (by rw [String.length_toList]) (h.own l hl).goesOn

/-! ## What they let pass -/

theorem isOwn_of_mem_lineageFrom (h : Linked g.loggers) {fuel : Nat} {name n : String}
    (hown : IsOwn name) (hn : n ∈ g.lineageFrom fuel name) : IsOwn n := by
  induction fuel generalizing name with
  | zero =>
    rw [List.mem_singleton.mp hn]
    exact hown
  | succ fuel ih =>
    rw [lineageFrom] at hn
    split at hn
    · rename_i p hp
      rcases List.mem_cons.mp hn with rfl | hn
      · exact hown
      · obtain ⟨l, hfind, habove⟩ := Option.bind_eq_some_iff.mp hp
        have hnearest := h.above l (List.mem_of_find?_eq_some hfind)
        rw [habove] at hnearest
        obtain ⟨-, ⟨m, hm, rfl⟩, -⟩ := hnearest
        exact ih (h.own m hm) hn
    · rw [List.mem_singleton.mp hn]
      exact hown

/-- No logger on the way up has a level but the program's, which decides. -/
theorem effective_of_joined (h : Linked g.loggers) {name : String} (hown : IsOwn name)
    (hmem : program ∈ g.lineage name) :
    g.effective name =
      if (g.level program).isUnset then (if g.rootLevel.isUnset then .unset else g.rootLevel)
      else g.level program := by
  have hlineage (n : String) (hn : n ∈ g.lineage name) : IsOwn n := by
    rw [lineage_of_own hown] at hn
    exact isOwn_of_mem_lineageFrom h hown hn
  rw [effective]
  match hfind : (g.lineage name).find? fun n => !(g.level n).isUnset with
  | none =>
    have hunset : (g.level program).isUnset = true := by
      simpa using List.find?_eq_none.mp hfind program hmem
    rw [hunset, if_pos rfl]
  | some n =>
    have hset : (g.level n).isUnset = false := by simpa using List.find?_some hfind
    have hprogram : n = program := by
      by_contra hne
      rw [level_eq_unset h (hlineage n (List.mem_of_find?_eq_some hfind)) hne] at hset
      exact absurd hset (by decide)
    subst hprogram
    rw [hset, if_neg Bool.false_ne_true]

theorem mem_lineage_program (h : Linked g.loggers) : program ∈ g.lineage program := by
  obtain ⟨m, hm, hname⟩ := h.ofProgram
  have hiff := mem_lineage_iff h hm
  rw [hname] at hiff
  exact hiff.mpr (.inl (by decide))

theorem effective_eq_program (h : Linked g.loggers) {l : Logger} (hl : l ∈ g.loggers)
    (hjoins : g.Joins (pointsAfter l.name)) : g.effective l.name = g.effective program := by
  rw [effective_of_joined h (h.own l hl) ((mem_lineage_iff h hl).mpr hjoins),
    effective_of_joined h isOwn_program (mem_lineage_program h)]

theorem effective_program (h : Linked g.loggers) :
    g.effective program =
      if (g.level program).isUnset then (if g.rootLevel.isUnset then .unset else g.rootLevel)
      else g.level program :=
  effective_of_joined h isOwn_program (mem_lineage_program h)

/-- A handler asks for no more than the program's logger does. -/
theorem Settled.level_le (h : g.Settled) {d : Handler} (hd : d ∈ g.handlers) {level : Severity}
    (hpositive : 0 < level.toInt) (hpass : (g.effective program).toInt ≤ level.toInt) :
    d.level.toInt ≤ level.toInt := by
  have hzero : Severity.unset.toInt = 0 := rfl
  rcases h.level_of_mem_handlers hd with hlevel | hlevel
  · rw [hlevel]
    omega
  · rw [hlevel]
    rw [effective_program h.linked] at hpass
    cases hunset : (g.level program).isUnset with
    | true =>
      have : (g.level program).toInt = 0 := by simpa [Severity.isUnset] using hunset
      omega
    | false =>
      rw [hunset, if_neg Bool.false_ne_true] at hpass
      exact hpass

theorem mem_receivers_iff {name : String} {level : Severity} {d : Handler} :
    d ∈ g.receivers name level ↔
      program ∈ g.lineage name ∧ d ∈ g.handlers ∧ d.level.toInt ≤ level.toInt := by
  rw [receivers]
  split
  · rename_i h
    rw [List.mem_filter, decide_eq_true_eq, iff_and_self]
    exact fun _ => List.contains_iff_mem.mp h
  · rename_i h
    exact iff_of_false List.not_mem_nil fun hall => h (List.contains_iff_mem.mpr hall.1)

theorem passes_iff {name : String} {level : Severity} :
    g.passes name level = true ↔ 0 < level.toInt ∧ (g.effective name).toInt ≤ level.toInt := by
  rw [passes, Bool.and_eq_true, decide_eq_true_eq, decide_eq_true_eq]

/-- What comes to a handler from a logger that belongs to the program's one is for that one to
say. -/
theorem Settled.reached_iff (h : g.Settled) {l : Logger} (hl : l ∈ g.loggers) {d : Handler}
    (hd : d ∈ g.handlers) (level : Severity) (hjoins : g.Joins (pointsAfter l.name)) :
    g.passes l.name level = true ∧ d ∈ g.receivers l.name level ↔
      0 < level.toInt ∧ (g.effective program).toInt ≤ level.toInt := by
  rw [passes_iff, mem_receivers_iff, effective_eq_program h.linked hl hjoins]
  constructor
  · exact And.left
  · rintro ⟨hpositive, hpass⟩
    exact ⟨⟨hpositive, hpass⟩, (mem_lineage_iff h.linked hl).mpr hjoins, hd,
      h.level_le hd hpositive hpass⟩

/-! ## Giving out a logger again -/

theorem setLevelOf_setLevelOf (name : String) (t : Severity) (l : Logger) :
    setLevelOf name t (setLevelOf name t l) = setLevelOf name t l := by
  unfold setLevelOf
  split <;> rfl

theorem setLevel_setLevel {name : String} (hown : IsOwn name) (t : Severity) :
    (g.setLevel name t).setLevel name t = g.setLevel name t := by
  obtain ⟨ls, heq, hls⟩ := setLevel_eq (g := g) hown t
  have hknown : Known (g.setLevel name t).loggers name := by
    rw [heq, hls, known_map_iff (name_setLevelOf name t)]
    exact known_withLogger hown
  obtain ⟨ms, heq', hms⟩ := setLevel_eq (g := g.setLevel name t) hown t
  rw [withLogger_of_known hown hknown, heq, hls, List.map_map] at hms
  have hsame : setLevelOf name t ∘ setLevelOf name t = setLevelOf name t :=
    funext (setLevelOf_setLevelOf name t)
  rw [heq', hms, hsame, heq, hls]

/-- What is given out is given out again under its own name, and nothing changes. -/
theorem give_ownName (h : g.Settled) (name : String) :
    give (ownName name) (give name g).2 = (.ok (ownName name), (give name g).2) := by
  have hprepared : (give name g).2.prepared = (give name g).2 := by
    have hconfigured : (give name g).2.configured = true := by
      rw [give_eq]
      split
      · exact configured_prepared h
      · rw [configured_setLevel (isOwn_ownName name), configured_prepared h]
    rw [prepared, setup_of_configured _ _ _ hconfigured]
  rw [give_eq (ownName name), ownName_of_isOwn (isOwn_ownName name), hprepared, give_eq name]
  split
  · rfl
  · rw [setLevel_setLevel (isOwn_ownName name)]

theorem known_give (h : g.Settled) (name : String) :
    Known (give name g).2.loggers (ownName name) := by
  rw [give_eq]
  split
  · rename_i heq
    rw [heq]
    exact h.prepared.linked.ofProgram
  · obtain ⟨ls, heq, hls⟩ := setLevel_eq (g := g.prepared) (isOwn_ownName name) .unset
    rw [heq, hls, known_map_iff (name_setLevelOf _ _)]
    exact known_withLogger (isOwn_ownName name)

/-- Whatever name is asked for, one logger is given out, and given out again. -/
theorem exists_give (h : g.Settled) (name : String) :
    ∃ own g', give name g = (.ok own, g') ∧ Known g'.loggers own ∧
      (own = program ∨ (Text.begins (program ++ ".") own = true ∧ g'.level own = .unset)) ∧
      give own g' = (.ok own, g') := by
  have hown : IsOwn (ownName name) := isOwn_ownName name
  refine ⟨ownName name, (give name g).2, by rw [give_eq], known_give h name, ?_,
    give_ownName h name⟩
  by_cases hprogram : ownName name = program
  · exact .inl hprogram
  · exact .inr ⟨hown.resolve_left hprogram,
      level_eq_unset (h.give name).linked hown hprogram⟩

end

/--
After any history the registry is configured just if the program's logger has exactly one handler,
and otherwise it has none; the handler has the level of the program's logger, or none. No logger
but the program's one has a level of its own. Whatever name is asked for, the logger that is given out exists, is the program's or one under its name
without a level, and is given out again under its own name with nothing changed.

A record of a logger that belongs to the program's one comes to the handler just if it is as severe
as the program's logger asks; no record of any other logger comes to it. A logger whose name goes on
with one point after the program's always belongs to it.
-/
theorem after_settles_and_reaches (rootLevel : Severity) (named : Option String)
    (actions : List Action) :
    let g := after actions (imported rootLevel named)
    (g.configured = true ↔ g.handlers.length = 1) ∧
    (g.configured = false → g.handlers = []) ∧
    (∀ d ∈ g.handlers, d.level = .unset ∨ d.level = g.level program) ∧
    (g.loggers.map Logger.name).Nodup ∧
    (∀ l ∈ g.loggers, l.name ≠ program → l.level = .unset) ∧
    (∀ name, ∃ own g', give name g = (.ok own, g') ∧ Known g'.loggers own ∧
      (own = program ∨ (Text.begins (program ++ ".") own = true ∧ g'.level own = .unset)) ∧
      give own g' = (.ok own, g')) ∧
    (∀ l ∈ g.loggers, ∀ d ∈ g.handlers, ∀ level : Severity,
      (g.Joins (pointsAfter l.name) → g.effective l.name = g.effective program ∧
        (g.passes l.name level = true ∧ d ∈ g.receivers l.name level ↔
          0 < level.toInt ∧ (g.effective program).toInt ≤ level.toInt)) ∧
      (¬ g.Joins (pointsAfter l.name) → d ∉ g.receivers l.name level)) ∧
    g.Joins 1 := by
  intro g
  have h : g.Settled := settled_after rootLevel named actions
  refine ⟨h.configured_iff_length, fun hc => (h.bare hc).1, fun d hd => h.level_of_mem_handlers hd,
    h.linked.distinct, h.linked.level, exists_give h, fun l hl d hd level => ⟨fun hjoins => ?_, fun hnot => ?_⟩, ?_⟩
  · exact ⟨effective_eq_program h.linked hl hjoins, h.reached_iff hl hd level hjoins⟩
  · rw [mem_receivers_iff, mem_lineage_iff h.linked hl]
    exact fun hall => hnot hall.1
  · exact .inr ⟨1, le_rfl, rfl, .inl rfl, fun i hi hi1 => by omega⟩

/-- A logger asked for as `.a` comes to belong to the program's one when one is asked for under the
empty name: then its warnings come to the handler. -/
theorem received_leadingPoint :
    let g := after [.give ".a", .give ""] (imported (.number warning) none)
    ∃ l d, l ∈ g.loggers ∧ l.name = "combitest..a" ∧ d ∈ g.handlers ∧
      g.Joins (pointsAfter l.name) ∧ d ∈ g.receivers l.name (.number warning) := by
  intro g
  have hl : ⟨"combitest..a", .unset, some "combitest."⟩ ∈ g.loggers := by decide +kernel
  have hd : ⟨.unset, Template.standard, .console⟩ ∈ g.handlers := by decide +kernel
  have hbare : Known g.loggers (pointed 1) :=
    ⟨⟨"combitest.", .unset, some program⟩, by decide +kernel, by decide⟩
  have hjoins : g.Joins (pointsAfter "combitest..a") :=
    .inr ⟨1, by decide, rfl, .inr hbare, fun i hi hi1 => by omega⟩
  obtain ⟨-, -, -, -, -, -, hreach, -⟩ :=
    after_settles_and_reaches (.number warning) none [.give ".a", .give ""]
  have hlevel : 0 < (Severity.number warning).toInt ∧
      (g.effective program).toInt ≤ (Severity.number warning).toInt := by decide +kernel
  exact ⟨_, _, hl, rfl, hd, hjoins,
    (((hreach _ hl _ hd (.number warning)).1 hjoins).2.mpr hlevel).2⟩

/-- A warning that a logger asked for as `.a` lets pass does not come to the handler, though the
program's logger asks for less. -/
theorem not_received_leadingPoint :
    let g := after [.give ".a"] (imported (.number warning) none)
    ∃ l d, l ∈ g.loggers ∧ (give ".a" g).1 = .ok l.name ∧ g.handlers = [d] ∧
      g.passes l.name (.number warning) = true ∧ (g.effective program).toInt ≤ warning ∧
      d ∉ g.receivers l.name (.number warning) ∧ g.effective l.name ≠ g.effective program := by
  refine ⟨⟨"combitest..a", .unset, none⟩, ⟨.unset, Template.standard, .console⟩, ?_, rfl, ?_, ?_,
    ?_, ?_, ?_⟩ <;> decide +kernel

end CaseGrid.Log.Registry
