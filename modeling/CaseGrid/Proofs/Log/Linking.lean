import CaseGrid.Proofs.Log.Names
import Mathlib.Data.List.Nodup

/-
  The loggers that exist under the program's name. Each belongs to the nearest one above it that
  exists, also after further ones were made, and none but the program's own has a level: both are
  kept when a logger is made and when the program's level is set.

  Proved: making a logger keeps the links (`Linked.withLogger`), setting the program's level or
  taking another one's away does (`Linked.setLevel`), and what becomes of the levels.
-/

namespace CaseGrid.Log

open Logger (ancestors beside)

/-- A logger of a name exists. -/
def Known (ls : List Logger) (name : String) : Prop :=
  ∃ l ∈ ls, l.name = name

/-- What a logger of a name belongs to: the nearest one above it, if any exists. -/
def Nearest (ls : List Logger) (name : String) : Option String → Prop
  | none => ∀ n ∈ ancestors name, ¬ Known ls n
  | some p => p ∈ ancestors name ∧ Known ls p ∧
    ∀ n ∈ ancestors name, Known ls n → n.toList.length ≤ p.toList.length

/-- Loggers under the program's name, each linked to the nearest one above it, and none but the
program's own with a level. -/
structure Linked (ls : List Logger) : Prop where
  own : ∀ l ∈ ls, IsOwn l.name
  distinct : (ls.map Logger.name).Nodup
  ofProgram : Known ls program
  above : ∀ l ∈ ls, Nearest ls l.name l.above
  level : ∀ l ∈ ls, l.name ≠ program → l.level = .unset

theorem IsOwn.isRoot_eq_false {name : String} (h : IsOwn name) : Registry.isRoot name = false := by
  have hbegins : program.toList <+: name.toList := h.goesOn.begins
  rw [Registry.isRoot, Bool.or_eq_false_iff, beq_eq_false_iff_ne, beq_eq_false_iff_ne]
  constructor
  · rintro rfl
    exact absurd hbegins (by decide)
  · rintro rfl
    exact absurd hbegins (by decide)

theorem IsOwn.not_begins_rootName {name : String} (h : IsOwn name) :
    Text.begins name rootName = false := by
  rw [← Bool.not_eq_true, Text.begins_iff]
  intro hroot
  exact absurd (h.goesOn.begins.trans hroot) (by decide)

section Loggers

variable {ls : List Logger} {l : Logger} {name n : String} {t : Severity}

/-! ## What exists -/

theorem known_map_iff {f : Logger → Logger} (hf : ∀ l, (f l).name = l.name) :
    Known (ls.map f) n ↔ Known ls n := by
  constructor
  · rintro ⟨_, hmap, rfl⟩
    obtain ⟨l, hl, rfl⟩ := List.mem_map.mp hmap
    exact ⟨l, hl, (hf l).symm⟩
  · rintro ⟨l, hl, rfl⟩
    exact ⟨f l, List.mem_map_of_mem hl, hf l⟩

theorem known_append_iff : Known (ls ++ [l]) n ↔ Known ls n ∨ n = l.name := by
  simp [Known, or_and_right, exists_or, eq_comm]

theorem Nearest.congr {above : Option String} {ls' : List Logger} (h : Nearest ls name above)
    (hknown : ∀ n ∈ ancestors name, (Known ls' n ↔ Known ls n)) : Nearest ls' name above := by
  cases above with
  | none => exact fun n hn hk => h n hn ((hknown n hn).mp hk)
  | some p =>
    obtain ⟨hp, hk, hlongest⟩ := h
    exact ⟨hp, (hknown p hp).mpr hk, fun n hn hkn => hlongest n hn ((hknown n hn).mp hkn)⟩

/-- The first of the names above that exists is the nearest one. -/
theorem nearest_find? {exists? : String → Bool} (h : ∀ n, exists? n = true ↔ Known ls n)
    (name : String) : Nearest ls name ((ancestors name).find? exists?) := by
  match hfind : (ancestors name).find? exists? with
  | none =>
    intro n hn hk
    exact List.find?_eq_none.mp hfind n hn ((h n).mpr hk)
  | some p =>
    obtain ⟨hp, before, after, heq, hbefore⟩ := List.find?_eq_some_iff_append.mp hfind
    have hmem : p ∈ ancestors name := List.mem_of_find?_eq_some hfind
    refine ⟨hmem, (h p).mp hp, fun n hn hk => ?_⟩
    rw [heq, List.mem_append, List.mem_cons] at hn
    rcases hn with hn | rfl | hn
    · have hnot := hbefore n hn
      rw [(h n).mpr hk] at hnot
      exact absurd hnot (by decide)
    · exact le_rfl
    · have hsorted := Logger.pairwise_ancestors name
      rw [heq] at hsorted
      exact Nat.le_of_lt ((List.pairwise_cons.mp (List.pairwise_append.mp hsorted).2.1).1 n hn)

/-! ## A new logger -/

theorem name_beside (made : String) (l : Logger) : (beside made l).name = l.name := by
  rw [beside]
  split <;> rfl

theorem level_beside (made : String) (l : Logger) : (beside made l).level = l.level := by
  rw [beside]
  split <;> rfl

/-- A logger belongs to the new one just if that is nearer than what it belonged to. -/
theorem nearest_beside {made : Logger} (hmade : IsOwn made.name)
    (h : Nearest ls l.name l.above) :
    Nearest (ls ++ [made]) l.name (beside made.name l).above := by
  rw [beside]
  by_cases hmem : made.name ∈ ancestors l.name
  · rw [List.contains_iff_mem.mpr hmem, Bool.true_and]
    match habove : l.above with
    | none =>
      rw [habove] at h
      rw [Option.getD_none, hmade.not_begins_rootName, Bool.not_false, if_pos rfl]
      refine ⟨hmem, known_append_iff.mpr (.inr rfl), fun n hn hk => ?_⟩
      rcases known_append_iff.mp hk with hk | rfl
      · exact absurd hk (h n hn)
      · exact le_rfl
    | some p =>
      rw [habove] at h
      obtain ⟨hp, hkp, hlongest⟩ := h
      rw [Option.getD_some]
      cases hbegins : Text.begins made.name p with
      | true =>
        rw [Bool.not_true, if_neg Bool.false_ne_true, habove]
        refine ⟨hp, known_append_iff.mpr (.inl hkp), fun n hn hk => ?_⟩
        rcases known_append_iff.mp hk with hk | rfl
        · exact hlongest n hn hk
        · exact (Text.begins_iff.mp hbegins).length_le
      | false =>
        have hlonger : p.toList.length < made.name.toList.length := by
          by_contra hle
          have hprefix : made.name.toList <+: p.toList :=
            List.prefix_of_prefix_length_le (Logger.mem_ancestors hmem).1
              (Logger.mem_ancestors hp).1 (Nat.not_lt.mp hle)
          rw [Text.begins_iff.mpr hprefix] at hbegins
          cases hbegins
        rw [Bool.not_false, if_pos rfl]
        refine ⟨hmem, known_append_iff.mpr (.inr rfl), fun n hn hk => ?_⟩
        rcases known_append_iff.mp hk with hk | rfl
        · exact (hlongest n hn hk).trans (Nat.le_of_lt hlonger)
        · exact le_rfl
  · rw [List.contains_eq_mem, decide_eq_false hmem, Bool.false_and, if_neg Bool.false_ne_true]
    refine h.congr fun n hn => ?_
    rw [known_append_iff, or_iff_left]
    rintro rfl
    exact hmem hn

/-- A new logger and the links to it keep the loggers linked. -/
theorem Linked.add (h : Linked ls) {made : Logger} (hmade : IsOwn made.name)
    (hnew : ¬ Known ls made.name) (habove : Nearest ls made.name made.above)
    (hlevel : made.level = .unset) : Linked (ls.map (beside made.name) ++ [made]) := by
  have hknown (n : String) :
      Known (ls.map (beside made.name) ++ [made]) n ↔ Known (ls ++ [made]) n := by
    rw [known_append_iff, known_append_iff, known_map_iff (name_beside made.name)]
  have hnames : (ls.map (beside made.name) ++ [made]).map Logger.name =
      ls.map Logger.name ++ [made.name] := by
    rw [List.map_append, List.map_map]
    congr 1
    exact List.map_congr_left fun l _ => name_beside made.name l
  constructor
  case own =>
    intro l hl
    rcases List.mem_append.mp hl with hl | hl
    · obtain ⟨m, hm, rfl⟩ := List.mem_map.mp hl
      rw [name_beside]
      exact h.own m hm
    · rw [List.mem_singleton.mp hl]
      exact hmade
  case distinct =>
    rw [hnames]
    refine List.nodup_append.mpr ⟨h.distinct, List.nodup_singleton _, ?_⟩
    rintro n hn _ hm rfl
    obtain ⟨l, hl, hname⟩ := List.mem_map.mp hn
    exact hnew ⟨l, hl, hname.trans (List.mem_singleton.mp hm)⟩
  case ofProgram => exact (hknown program).mpr (known_append_iff.mpr (.inl h.ofProgram))
  case above =>
    intro l hl
    rcases List.mem_append.mp hl with hl | hl
    · obtain ⟨m, hm, rfl⟩ := List.mem_map.mp hl
      rw [name_beside]
      exact (nearest_beside hmade (h.above m hm)).congr fun n _ => hknown n
    · rw [List.mem_singleton.mp hl]
      refine habove.congr fun n hn => ?_
      rw [hknown, known_append_iff, or_iff_left]
      rintro rfl
      exact Nat.lt_irrefl _ (Logger.mem_ancestors hn).2
  case level =>
    intro l hl hne
    rcases List.mem_append.mp hl with hl | hl
    · obtain ⟨m, hm, rfl⟩ := List.mem_map.mp hl
      rw [name_beside] at hne
      rw [level_beside]
      exact h.level m hm hne
    · rw [List.mem_singleton.mp hl]
      exact hlevel

/-! ## Another level -/

/-- The loggers with the level of one set. -/
def setLevelOf (name : String) (t : Severity) (l : Logger) : Logger :=
  if l.name = name then { l with level := t } else l

theorem name_setLevelOf (name : String) (t : Severity) (l : Logger) :
    (setLevelOf name t l).name = l.name := by
  rw [setLevelOf]
  split <;> rfl

theorem above_setLevelOf (name : String) (t : Severity) (l : Logger) :
    (setLevelOf name t l).above = l.above := by
  rw [setLevelOf]
  split <;> rfl

/-- Setting the program's level, or taking a level away, keeps the loggers linked. -/
theorem Linked.map_setLevelOf (h : Linked ls) (ht : name = program ∨ t = .unset) :
    Linked (ls.map (setLevelOf name t)) := by
  have hknown (n : String) : Known (ls.map (setLevelOf name t)) n ↔ Known ls n :=
    known_map_iff (name_setLevelOf name t)
  constructor
  case own =>
    intro l hl
    obtain ⟨m, hm, rfl⟩ := List.mem_map.mp hl
    rw [name_setLevelOf]
    exact h.own m hm
  case distinct =>
    rw [List.map_map]
    have hnames : ls.map (Logger.name ∘ setLevelOf name t) = ls.map Logger.name :=
      List.map_congr_left fun l _ => name_setLevelOf name t l
    rw [hnames]
    exact h.distinct
  case ofProgram => exact (hknown program).mpr h.ofProgram
  case above =>
    intro l hl
    obtain ⟨m, hm, rfl⟩ := List.mem_map.mp hl
    rw [name_setLevelOf, above_setLevelOf]
    exact (h.above m hm).congr fun n _ => hknown n
  case level =>
    intro l hl hne
    obtain ⟨m, hm, rfl⟩ := List.mem_map.mp hl
    rw [name_setLevelOf] at hne
    rw [setLevelOf]
    split
    · rename_i heq
      rcases ht with rfl | rfl
      · exact absurd heq hne
      · rfl
    · exact h.level m hm hne

end Loggers

end CaseGrid.Log
