import CaseGrid.Module
import CaseGrid.Proofs.Value.Texts
import Mathlib.Data.List.Induction
import Mathlib.Data.List.Nodup

/-
  Scenarios that come one after the other, of which the first one of each title is kept. Whether a
  title is new is said by all that came before, kept or not; what is kept under its titles is then
  found again by title, as the first one that came with it.

  Proved: one more scenario (`news_concat`), that what is kept has different titles
  (`nodup_news`), and looking a title up among what is kept (`get?_titled_news`).
-/

namespace CaseGrid

namespace Member

/-- The first scenario of a title. -/
def ofTitle? (ms : List Member) (title : Value) : Option Member :=
  ms.find? fun m => m.scenario.title.alike title

/-- The scenarios whose titles are new, where some others came before. -/
def news (before : List Member) : List Member → List Member
  | [] => []
  | m :: ms =>
    if (ofTitle? before m.scenario.title).isSome then news (before ++ [m]) ms
    else m :: news (before ++ [m]) ms

/-- Scenarios, each under its own title. -/
def titled (ms : List Member) : Entries Member :=
  ms.map fun m => (m.scenario.title, m)

/-- An identity is that of one scenario. -/
def Identified (ms : List Member) : Prop :=
  ∀ m ∈ ms, ∀ n ∈ ms, m.id = n.id → m = n

/-- All titles are texts. -/
def Texts (ms : List Member) : Prop :=
  ∀ m ∈ ms, m.scenario.title.IsText

variable {ms : List Member} {m : Member} {title : Value}

theorem Texts.left {ns : List Member} (h : Texts (ms ++ ns)) : Texts ms :=
  fun m hm => h m (List.mem_append_left ns hm)

theorem Texts.right {ns : List Member} (h : Texts (ms ++ ns)) : Texts ns :=
  fun m hm => h m (List.mem_append_right ms hm)

theorem Texts.head (h : Texts (m :: ms)) : m.scenario.title.IsText :=
  h m List.mem_cons_self

theorem get?_titled (ms : List Member) (title : Value) :
    (titled ms).get? title = ofTitle? ms title := by
  induction ms with
  | nil => rfl
  | cons m ms ih =>
    rw [titled, List.map_cons, Entries.get?, ofTitle?, List.find?_cons]
    split
    · rename_i h
      rw [h]
    · rename_i h
      rw [Bool.not_eq_true] at h
      rw [h]
      exact ih

/-! ## The first of a title -/

theorem ofTitle?_concat (ms : List Member) (m : Member) (title : Value) :
    ofTitle? (ms ++ [m]) title =
      (ofTitle? ms title).or (if m.scenario.title.alike title then some m else none) := by
  rw [ofTitle?, List.find?_append, List.find?_singleton]
  rfl

theorem ofTitle?_eq_none_iff (h : Texts ms) :
    ofTitle? ms title = none ↔ ∀ n ∈ ms, n.scenario.title ≠ title := by
  rw [ofTitle?, List.find?_eq_none]
  exact forall₂_congr fun n hn => not_congr (h n hn).alike_iff

/-- A scenario with a title that none before it had. -/
def First (ms : List Member) (m : Member) : Prop :=
  ∃ before after, ms = before ++ m :: after ∧
    ∀ n ∈ before, n.scenario.title ≠ m.scenario.title

theorem First.mem (h : First ms m) : m ∈ ms := by
  obtain ⟨before, after, rfl, -⟩ := h
  simp

theorem ofTitle?_eq_some_iff (h : Texts ms) :
    ofTitle? ms title = some m ↔ First ms m ∧ m.scenario.title = title := by
  rw [ofTitle?, List.find?_eq_some_iff_append]
  have hnot (n : Member) (hn : n.scenario.title.IsText) :
      (!n.scenario.title.alike title) = true ↔ n.scenario.title ≠ title := by
    rw [Bool.not_eq_true', ← Bool.not_eq_true]
    exact not_congr hn.alike_iff
  constructor
  · rintro ⟨htitle, before, after, rfl, hbefore⟩
    obtain rfl := h.right.head.alike_iff.mp htitle
    exact ⟨⟨before, after, rfl, fun n hn => (hnot n (h.left n hn)).mp (hbefore n hn)⟩, rfl⟩
  · rintro ⟨⟨before, after, rfl, hbefore⟩, rfl⟩
    exact ⟨h.right.head.alike_iff.mpr rfl, before, after, rfl,
      fun n hn => (hnot n (h.left n hn)).mpr (hbefore n hn)⟩

/-- Of the scenarios of one title just one is the first. -/
theorem existsUnique_first (h : Texts ms) (hm : m ∈ ms) :
    ∃! n, First ms n ∧ n.scenario.title = m.scenario.title := by
  cases hn : ofTitle? ms m.scenario.title with
  | none => exact absurd rfl ((ofTitle?_eq_none_iff h).mp hn m hm)
  | some n =>
    refine ⟨n, (ofTitle?_eq_some_iff h).mp hn, fun k hk => ?_⟩
    have hfound := (ofTitle?_eq_some_iff h).mpr hk
    rw [hn] at hfound
    exact (Option.some.inj hfound).symm

/-- What is kept of one more scenario is known by all before it. -/
theorem news_concat (before ms : List Member) (m : Member) :
    news before (ms ++ [m]) =
      if (ofTitle? (before ++ ms) m.scenario.title).isSome then news before ms
      else news before ms ++ [m] := by
  induction ms generalizing before with
  | nil =>
    rw [List.nil_append, List.append_nil]
    rfl
  | cons n ms ih =>
    rw [List.cons_append, news, news, ih, List.append_assoc, List.singleton_append]
    split <;> split <;> rfl

/-- The first of a title among what is kept is the first one that came with it. -/
theorem ofTitle?_news (h : Texts ms) (title : Value) :
    ofTitle? (news [] ms) title = ofTitle? ms title := by
  induction ms using List.reverseRecOn with
  | nil => rfl
  | append_singleton ms m ih =>
    rw [news_concat, List.nil_append, ofTitle?_concat]
    split
    · rename_i hold
      obtain ⟨n, hn⟩ := Option.isSome_iff_exists.mp hold
      rw [ih h.left]
      split
      · rename_i halike
        rw [h.right.head.alike_iff.mp halike] at hn
        rw [hn]
        rfl
      · rw [Option.or_none]
    · rw [ofTitle?_concat, ih h.left]

theorem get?_titled_news (h : Texts ms) (title : Value) :
    (titled (news [] ms)).get? title = ofTitle? ms title := by
  rw [get?_titled, ofTitle?_news h]

theorem mem_of_mem_news (h : m ∈ news [] ms) : m ∈ ms := by
  induction ms using List.reverseRecOn with
  | nil => exact h
  | append_singleton ms n ih =>
    rw [news_concat] at h
    split at h
    · exact List.mem_append_left _ (ih h)
    · rcases List.mem_append.mp h with h | h
      · exact List.mem_append_left _ (ih h)
      · exact List.mem_append_right _ h

theorem nodup_news (h : Texts ms) : ((news [] ms).map fun m => m.scenario.title).Nodup := by
  induction ms using List.reverseRecOn with
  | nil => exact List.nodup_nil
  | append_singleton ms m ih =>
    rw [news_concat]
    split
    · exact ih h.left
    · rename_i hnew
      rw [Bool.not_eq_true, Option.isSome_eq_false_iff, Option.isNone_iff_eq_none, List.nil_append,
        ofTitle?_eq_none_iff h.left] at hnew
      rw [List.map_append, List.nodup_append]
      refine ⟨ih h.left, List.nodup_singleton _, ?_⟩
      intro v hv w hw
      obtain ⟨n, hn, rfl⟩ := List.mem_map.mp hv
      obtain rfl := List.mem_singleton.mp hw
      exact hnew n (mem_of_mem_news hn)

/-- Among scenarios of different titles each is the first of its title. -/
theorem ofTitle?_of_mem (h : Texts ms) (hnodup : (ms.map fun m => m.scenario.title).Nodup)
    (hm : m ∈ ms) : ofTitle? ms m.scenario.title = some m := by
  obtain ⟨before, after, rfl⟩ := List.append_of_mem hm
  rw [ofTitle?_eq_some_iff h]
  refine ⟨⟨before, after, rfl, fun n hn => ?_⟩, rfl⟩
  rw [List.map_append, List.nodup_append] at hnodup
  exact hnodup.2.2 _ (List.mem_map_of_mem hn) _ List.mem_cons_self

end Member

end CaseGrid
