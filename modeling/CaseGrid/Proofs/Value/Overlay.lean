import CaseGrid.Proofs.Value.Entries
import CaseGrid.Proofs.Value.Identity

/-
  One assignment laid over another: its entries are assigned one after the other. A key that the
  lower one has keeps its place there and takes what the upper one assigns; the other keys follow in
  the order of the upper one.

  Proved: what each key is assigned (`get?_overlay`), the order of the keys (`keys_overlay`), and
  that to lay an assignment with one more key assigned over another is to assign to that key last
  (`overlay_put`). The induction for `overlay_put` is on the upper entries; where the key is already
  among them, what is assigned to it passes by the later ones, none of which is alike to it.
-/

namespace CaseGrid.Entries

variable {α : Type} {bound es fs : Entries α} {j k : Value} {a b : α}

/-- Entries assigned to one after the other. -/
def overlay (bound es : Entries α) : Entries α :=
  es.foldl (fun fs e => fs.put e.1 e.2) bound

theorem overlay_cons (bound : Entries α) (e : Value × α) (es : Entries α) :
    bound.overlay (e :: es) = (bound.put e.1 e.2).overlay es :=
  rfl

/-- Keys that are keys, no two of them alike. -/
structure Keyed (es : Entries α) : Prop where
  hashable : ∀ k ∈ es.keys, k.hashable = true
  unlike : es.keys.Pairwise fun j k => j.alike k = false

theorem keyed_nil : Keyed ([] : Entries α) :=
  ⟨nofun, .nil⟩

theorem keyed_cons_iff {e : Value × α} :
    Keyed (e :: es) ↔ e.1.hashable = true ∧ (∀ k ∈ es.keys, e.1.alike k = false) ∧ Keyed es := by
  have hkeys : keys (e :: es) = e.1 :: es.keys := rfl
  constructor
  · rintro ⟨hhash, hunlike⟩
    rw [hkeys] at hhash hunlike
    obtain ⟨hfirst, hrest⟩ := List.pairwise_cons.mp hunlike
    exact ⟨hhash e.1 (.head _), hfirst, fun k hk => hhash k (.tail _ hk), hrest⟩
  · rintro ⟨hhash, hfirst, hes⟩
    refine ⟨?_, ?_⟩
    · rw [hkeys]
      exact List.forall_mem_cons.mpr ⟨hhash, hes.hashable⟩
    · rw [hkeys]
      exact List.pairwise_cons.mpr ⟨hfirst, hes.unlike⟩

/-! ## What is assigned -/

theorem get?_append : (es ++ fs).get? k = (es.get? k).or (fs.get? k) := by
  induction es with
  | nil => rfl
  | cons e es ih =>
    rw [List.cons_append, get?, get?]
    split
    · rfl
    · exact ih

theorem get?_put (hj : j.hashable = true) (hk : k.hashable = true) :
    (es.put j a).get? k = if j.alike k then some a else es.get? k := by
  induction es with
  | nil => rfl
  | cons e es ih =>
    obtain ⟨x, c⟩ := e
    rw [put]
    by_cases hxj : x.alike j = true
    · -- the first key alike to `j` is alike to `k` just if `j` is
      have hx : x.alike k = j.alike k := Value.alike_congr_left hxj hj hk
      rw [if_pos hxj, get?, get?, hx]
      split <;> rfl
    · rw [if_neg hxj, get?, get?, ih]
      by_cases hxk : x.alike k = true
      · have hjk : j.alike k = false :=
          Value.unlike_of_alike hxk (by simpa using hxj) hk hj
        rw [if_pos hxk, if_pos hxk, hjk, if_neg Bool.false_ne_true]
      · rw [if_neg hxk, if_neg hxk]

/-- What was assigned last counts, and where nothing was, what was there. -/
theorem get?_overlay (hes : ∀ j ∈ es.keys, j.hashable = true) (hk : k.hashable = true) :
    (bound.overlay es).get? k = (get? es.reverse k).or (bound.get? k) := by
  induction es generalizing bound with
  | nil => rfl
  | cons e es ih =>
    rw [overlay_cons, ih fun j hj => hes j (.tail _ hj), List.reverse_cons, get?_append,
      get?_put (hes e.1 (.head _)) hk, Option.or_assoc]
    congr 1
    rw [get?, get?]
    split <;> rfl

/-- Among keys of which no two are alike, what is assigned first is what is assigned last. -/
theorem Keyed.get?_reverse (h : Keyed es) (hk : k.hashable = true) :
    get? es.reverse k = es.get? k := by
  induction es with
  | nil => rfl
  | cons e es ih =>
    obtain ⟨he, hunlike, hes⟩ := keyed_cons_iff.mp h
    rw [List.reverse_cons, get?_append, ih hes, get?, get?, get?]
    by_cases hek : e.1.alike k = true
    · have hnone : get? es k = none := by
        refine get?_eq_none_iff.mpr fun f hf => ?_
        have hfkey : f.1 ∈ keys es := List.mem_map_of_mem hf
        exact Value.unlike_of_alike hek (hunlike f.1 hfkey) hk (hes.hashable f.1 hfkey)
      rw [hnone, if_pos hek, Option.none_or]
    · rw [if_neg hek, if_neg hek, Option.or_none]

/-! ## The order of the keys -/

theorem keys_put : (es.put k a).keys = if (es.get? k).isSome then es.keys else es.keys ++ [k] := by
  induction es with
  | nil => rfl
  | cons e es ih =>
    obtain ⟨x, c⟩ := e
    have hkeys (fs : Entries α) (d : α) : keys ((x, d) :: fs) = x :: fs.keys := rfl
    rw [put, get?]
    by_cases hx : x.alike k = true
    · rw [if_pos hx, if_pos hx, hkeys, hkeys]
      rfl
    · rw [if_neg hx, if_neg hx, hkeys, hkeys, ih]
      split <;> rfl

theorem unlike_of_get?_eq_none (h : es.get? k = none) (hj : j ∈ es.keys) : j.alike k = false := by
  obtain ⟨e, he, rfl⟩ := List.mem_map.mp hj
  exact get?_eq_none_iff.mp h e he

theorem Keyed.put (h : Keyed es) (hk : k.hashable = true) : Keyed (es.put k a) := by
  have hkeys : (es.put k a).keys = _ := keys_put
  match hget : es.get? k with
  | some b =>
    rw [hget] at hkeys
    exact ⟨hkeys ▸ h.hashable, hkeys ▸ h.unlike⟩
  | none =>
    rw [hget] at hkeys
    refine ⟨?_, ?_⟩
    · rw [hkeys]
      exact List.forall_mem_append.mpr ⟨h.hashable, List.forall_mem_singleton.mpr hk⟩
    · rw [hkeys]
      refine List.pairwise_append.mpr ⟨h.unlike, List.pairwise_singleton _ _, ?_⟩
      intro j hj x hx
      obtain rfl := List.mem_singleton.mp hx
      exact unlike_of_get?_eq_none hget hj

/-- The keys of the lower entries in their places, and then the other keys of the upper ones. -/
theorem keys_overlay (hes : Keyed es) :
    (bound.overlay es).keys = bound.keys ++ es.keys.filter fun k => (bound.get? k).isNone := by
  induction es generalizing bound with
  | nil => exact (List.append_nil _).symm
  | cons e es ih =>
    obtain ⟨he, hunlike, hes⟩ := keyed_cons_iff.mp hes
    have hlater : (keys es).filter (fun k => ((bound.put e.1 e.2).get? k).isNone) =
        (keys es).filter fun k => (bound.get? k).isNone := by
      refine List.filter_congr fun k hk => ?_
      rw [get?_put he (hes.hashable k hk), hunlike k hk, if_neg Bool.false_ne_true]
    have hkeys : keys (e :: es) = e.1 :: keys es := rfl
    rw [overlay_cons, ih hes, hlater, keys_put, hkeys, List.filter_cons]
    cases bound.get? e.1 with
    | none => exact List.append_assoc _ _ _
    | some b => rfl

/-! ## One more key -/

/-- What is assigned to a key that is there already takes the place of what was. -/
theorem put_put_of_alike (hjk : j.alike k = true) (hk : k.hashable = true) :
    (bound.put j a).put k b = bound.put j b := by
  induction bound with
  | nil => rw [put, put, put, if_pos hjk]
  | cons e bound ih =>
    obtain ⟨x, c⟩ := e
    have hx : x.alike j = x.alike k := Value.alike_congr_right hjk hk
    rw [put, put]
    split
    · rename_i hxj
      rw [put, if_pos (hx ▸ hxj)]
    · rename_i hxj
      rw [put, if_neg (hx ▸ hxj), ih]

/-- A key that is there already is assigned to before or after one unlike it. -/
theorem put_comm_of_unlike (hbound : (bound.get? k).isSome = true) (hjk : j.alike k = false)
    (hj : j.hashable = true) (hk : k.hashable = true) :
    (bound.put j a).put k b = (bound.put k b).put j a := by
  induction bound with
  | nil => cases hbound
  | cons e bound ih =>
    obtain ⟨x, c⟩ := e
    rw [get?] at hbound
    by_cases hxk : x.alike k = true
    · have hxj : ¬ x.alike j = true := by
        intro hxj
        rw [← Value.alike_congr_left hxj hj hk, hxk] at hjk
        cases hjk
      rw [put, if_neg hxj, put, if_pos hxk, put, if_pos hxk, put, if_neg hxj]
    · rw [if_neg hxk] at hbound
      by_cases hxj : x.alike j = true
      · rw [put, if_pos hxj, put, if_neg hxk, put, if_neg hxk, put, if_pos hxj]
      · rw [put, if_neg hxj, put, if_neg hxk, put, if_neg hxk, put, if_neg hxj, ih hbound]

/-- What is assigned to a key that is there already passes by keys unlike it. -/
theorem overlay_put_of_unlike (hbound : (bound.get? k).isSome = true)
    (hes : ∀ j ∈ es.keys, j.hashable = true ∧ j.alike k = false) (hk : k.hashable = true) :
    (bound.put k a).overlay es = (bound.overlay es).put k a := by
  induction es generalizing bound with
  | nil => rfl
  | cons e es ih =>
    obtain ⟨he, hek⟩ := hes e.1 (.head _)
    rw [overlay_cons, overlay_cons, ← put_comm_of_unlike hbound hek he hk]
    refine ih ?_ fun j hj => hes j (.tail _ hj)
    rw [get?_put he hk, hek]
    exact hbound

/-- To lay entries with one more key assigned over others is to assign to that key last. -/
theorem overlay_put (hes : Keyed es) (hk : k.hashable = true) :
    bound.overlay (es.put k a) = (bound.overlay es).put k a := by
  induction es generalizing bound with
  | nil => rfl
  | cons e es ih =>
    obtain ⟨x, c⟩ := e
    obtain ⟨hx, hunlike, hes⟩ := keyed_cons_iff.mp hes
    rw [put]
    split
    · rename_i hxk
      have hlater (j : Value) (hj : j ∈ keys es) : j.hashable = true ∧ j.alike k = false := by
        have hjhash : j.hashable = true := hes.hashable j hj
        exact ⟨hjhash, Value.unlike_of_alike hxk (hunlike j hj) hk hjhash⟩
      have hbound : ((bound.put x c).get? k).isSome = true := by
        rw [get?_put hx hk, if_pos hxk]
        rfl
      rw [overlay_cons, overlay_cons, ← overlay_put_of_unlike hbound hlater hk,
        put_put_of_alike hxk hk]
    · rw [overlay_cons, overlay_cons, ih hes]

end CaseGrid.Entries
