import CaseGrid.Proofs.Expansion.Product
import CaseGrid.Proofs.Value.Overlay

/-
  How the combinations of items that have not been checked come together. The items of one list
  after those of another give, for each combination of the first, those of the second that go on
  from it; and what a combination starts from is only put before it and under it.

  A combination goes through the items up to the first one without candidates, so that whether
  there is a fault does not depend on where the combinations start. `combineItems_eq` separates the
  two: the variables that are reached, which may be a fault, and their combinations, which are none.
  The composition is then that of `combine`, by induction on the variables with path and bindings
  left free.
-/

namespace CaseGrid.Expansion

open CaseGrid.Validation

variable {items : List Item} {vs ws : List Variable} {path : Path} {bound : Entries Value}

/-! ## The variables that combinations reach -/

/-- The variables up to the first one without candidates, or the fault that comes before it. -/
def reached : List Item → Except Fault (List Variable)
  | [] => .ok []
  | item :: rest =>
    item.values.bind fun choices =>
      if choices = [] then .ok [⟨item.name, []⟩]
      else item.name.key.bind fun name => (reached rest).map (⟨name, choices⟩ :: ·)

/-- The combinations of items are those of the variables that they reach. -/
theorem combineItems_eq (items : List Item) (path : Path) (bound : Entries Value) :
    combineItems items path bound = (reached items).map fun vs => combine vs path bound := by
  induction items generalizing path bound with
  | nil => rfl
  | cons item rest ih =>
    rw [combineItems, reached]
    cases item.values with
    | error f => rfl
    | ok choices =>
      by_cases hchoices : choices = []
      · subst hchoices
        rfl
      · simp only [ih, Except.bind, if_neg hchoices]
        cases item.name.key with
        | error f => exact flatten_mapM_map (.error f) (fun _ (cs : List Combination) => cs) hchoices
        | ok name =>
          refine (flatten_mapM_map (reached rest) (fun c vs => combine vs
            (path.extend name c.name) (bound.put name c.value)) hchoices).trans ?_
          cases reached rest <;> rfl

/-- What comes after an item without candidates is not reached. -/
theorem reached_append (xs ys : List Item) :
    reached (xs ++ ys) = (reached xs).bind fun vs =>
      if gridSize vs = 0 then .ok vs else (reached ys).map (vs ++ ·) := by
  induction xs with
  | nil =>
    show reached ys = (reached ys).map ([] ++ ·)
    cases reached ys <;> rfl
  | cons item xs ih =>
    rw [List.cons_append, reached, reached]
    cases item.values with
    | error f => rfl
    | ok choices =>
      by_cases hchoices : choices = []
      · subst hchoices
        rfl
      · simp only [Except.bind, if_neg hchoices, ih]
        cases item.name.key with
        | error f => rfl
        | ok name =>
          cases reached xs with
          | error f => rfl
          | ok vs =>
            have hsize : gridSize (⟨name, choices⟩ :: vs) = 0 ↔ gridSize vs = 0 := by
              simp [gridSize_cons, hchoices]
            by_cases hvs : gridSize vs = 0
            · simp [Except.map, hsize, hvs]
            · simp only [Except.map, hsize, hvs, if_false]
              cases reached ys <;> rfl

theorem hashable_of_reached {v : Variable} (h : reached items = .ok vs) (hv : v ∈ vs)
    (hvalues : v.values ≠ []) : v.name.hashable = true := by
  induction items generalizing vs with
  | nil =>
    cases h
    cases hv
  | cons item rest ih =>
    obtain ⟨choices, -, h⟩ := bind_eq_ok_iff.mp h
    split at h
    · cases h
      obtain rfl := List.mem_singleton.mp hv
      exact absurd rfl hvalues
    · obtain ⟨name, hname, h⟩ := bind_eq_ok_iff.mp h
      obtain ⟨ws, hws, rfl⟩ := map_eq_ok_iff.mp h
      rcases List.mem_cons.mp hv with rfl | hv
      · obtain ⟨hhash, rfl⟩ := Value.key_eq_ok_iff.mp hname
        exact hhash
      · exact ih hws hv

/-! ## Composition of combinations -/

theorem combine_append (vs ws : List Variable) (path : Path) (bound : Entries Value) :
    combine (vs ++ ws) path bound =
      (combine vs path bound).flatMap fun c => combine ws c.1 c.2 := by
  induction vs generalizing path bound with
  | nil => exact (List.append_nil _).symm
  | cons v vs ih => simp only [List.cons_append, combine, ih, List.flatMap_assoc]

/-- Combinations from some bindings on are laid over what was bound before. -/
theorem combine_overlay {before : Path} {es : Entries Value} (hes : es.Keyed)
    (hnames : ∀ v ∈ vs, v.values ≠ [] → v.name.hashable = true) :
    combine vs (before ++ path) (bound.overlay es) =
      (combine vs path es).map fun c => (before ++ c.1, bound.overlay c.2) := by
  induction vs generalizing path es with
  | nil => rfl
  | cons v vs ih =>
    rw [combine, combine, List.map_flatMap]
    refine List.flatMap_congr fun c hc => ?_
    have hname : v.name.hashable = true := hnames v (.head vs) (List.ne_nil_of_mem hc)
    have hpath : (before ++ path).extend v.name c.name = before ++ path.extend v.name c.name :=
      List.append_assoc _ _ _
    rw [hpath, ← Entries.overlay_put hes hname,
      ih (hes.put hname) fun w hw => hnames w (.tail v hw)]

theorem keyed_of_mem_combine {es : Entries Value} {c : Combination} (hes : es.Keyed)
    (hnames : ∀ v ∈ vs, v.values ≠ [] → v.name.hashable = true) (hc : c ∈ combine vs path es) :
    c.2.Keyed := by
  induction vs generalizing path es with
  | nil =>
    obtain rfl := List.mem_singleton.mp hc
    exact hes
  | cons v vs ih =>
    obtain ⟨d, hd, hc⟩ := List.mem_flatMap.mp hc
    have hname : v.name.hashable = true := hnames v (.head vs) (List.ne_nil_of_mem hd)
    exact ih (hes.put hname) (fun w hw => hnames w (.tail v hw)) hc

/-! ## Composition of unchecked items -/

theorem combineItems_append (xs ys : List Item) (path : Path) (bound : Entries Value) :
    combineItems (xs ++ ys) path bound = (do
      let firsts ← combineItems xs path bound
      let parts ← firsts.mapM fun c => combineItems ys c.1 c.2
      return parts.flatten) := by
  simp only [combineItems_eq, reached_append]
  cases reached xs with
  | error f => rfl
  | ok vs =>
    have hcombine : combine vs path bound = [] ↔ gridSize vs = 0 := by
      rw [← length_combine vs path bound, List.length_eq_zero_iff]
    by_cases hvs : gridSize vs = 0
    · simp only [Except.bind, Except.map, if_pos hvs, hcombine.mpr hvs]
      rfl
    · refine Eq.trans ?_ (flatten_mapM_map (reached ys) (fun c ws => combine ws c.1 c.2)
        (mt hcombine.mp hvs)).symm
      simp only [Except.bind, if_neg hvs, ← combine_append]
      cases reached ys <;> rfl

/-- The combinations after a path and bindings are those from nothing, put after and laid over. -/
theorem combineItems_overlay (xs : List Item) (path : Path) (bound : Entries Value) :
    combineItems xs path bound = (do
      let bare ← combineItems xs [] []
      return bare.map fun c => (path ++ c.1, bound.overlay c.2)) := by
  simp only [combineItems_eq]
  match hreached : reached xs with
  | .error f => rfl
  | .ok vs =>
    have hoverlay : combine vs (path ++ []) (bound.overlay []) = _ :=
      combine_overlay Entries.keyed_nil fun v hv => hashable_of_reached hreached hv
    rw [List.append_nil] at hoverlay
    exact congrArg Except.ok hoverlay

theorem keyed_of_mem_combineItems {cs : List Combination} {c : Combination}
    (h : combineItems items [] [] = .ok cs) (hc : c ∈ cs) : c.2.Keyed := by
  rw [combineItems_eq] at h
  obtain ⟨vs, hvs, rfl⟩ := map_eq_ok_iff.mp h
  exact keyed_of_mem_combine Entries.keyed_nil (fun v hv => hashable_of_reached hvs hv) hc

/-- Variables whose names can be keys have all their combinations. -/
theorem combineItems_declared (hnames : ∀ v ∈ vs, v.name.hashable = true) (path : Path)
    (bound : Entries Value) :
    combineItems (vs.map .declared) path bound = .ok (combine vs path bound) := by
  induction vs generalizing path bound with
  | nil => rfl
  | cons v vs ih =>
    have hkey : v.name.key = .ok v.name :=
      Value.key_eq_ok_iff.mpr ⟨hnames v (.head vs), rfl⟩
    have hstep (c : Choice) : (do
        let name ← (Item.declared v).name.key
        combineItems (vs.map .declared) (path.extend name c.name) (bound.put name c.value)) =
        .ok (combine vs (path.extend v.name c.name) (bound.put v.name c.value)) := by
      show v.name.key >>= _ = _
      rw [hkey]
      exact ih (fun w hw => hnames w (.tail v hw)) _ _
    rw [List.map_cons, combineItems]
    simp only [hstep, mapM_ok]
    rfl

/--
The combinations of two lists of items, one after the other, are those of the second that go on
from each combination of the first, in order. The combinations after a path and bindings are those
from nothing, the path put before each path and each bindings laid over: a key that is bound already
keeps its place, and what is assigned last counts. Variables whose names can be keys have as many
combinations as the product of the numbers of their candidates.
-/
theorem combineItems_composes (xs ys : List Item) (path : Path) (bound : Entries Value) :
    (combineItems (xs ++ ys) path bound = do
      let firsts ← combineItems xs path bound
      let parts ← firsts.mapM fun c => combineItems ys c.1 c.2
      return parts.flatten) ∧
    (combineItems xs path bound = do
      let bare ← combineItems xs [] []
      return bare.map fun c => (path ++ c.1, bound.overlay c.2)) ∧
    (∀ bare, combineItems xs [] [] = .ok bare → ∀ c ∈ bare,
      (bound.overlay c.2).keys = bound.keys ++ c.2.keys.filter (fun k => (bound.get? k).isNone) ∧
      ∀ k : Value, k.hashable = true →
        (bound.overlay c.2).get? k = (c.2.get? k).or (bound.get? k)) ∧
    ∀ vs : List Variable, xs = vs.map .declared → (∀ v ∈ vs, v.name.hashable = true) →
      ∃ cs, combineItems xs path bound = .ok cs ∧
        cs.length = (vs.map fun v => v.values.length).prod ∧
        ∀ m, m < cs.length → ∃ choices b, Chooses vs m choices ∧
          cs[m]? = some (path ++ segments vs choices, b) ∧
          ∀ k : Value, k.hashable = true →
            b.get? k = (Entries.get? (assignment vs choices).reverse k).or (bound.get? k) := by
  refine ⟨combineItems_append xs ys path bound, combineItems_overlay xs path bound, ?_, ?_⟩
  · intro bare hbare c hc
    have hkeyed : c.2.Keyed := keyed_of_mem_combineItems hbare hc
    refine ⟨Entries.keys_overlay hkeyed, fun k hk => ?_⟩
    rw [Entries.get?_overlay hkeyed.hashable hk, hkeyed.get?_reverse hk]
  · rintro vs rfl hnames
    refine ⟨combine vs path bound, combineItems_declared hnames path bound,
      length_combine vs path bound, ?_⟩
    intro m hm
    rw [length_combine] at hm
    obtain ⟨choices, hchooses, hm⟩ := combine_getElem? path bound hm
    have hput : (vs.zip choices).foldl (fun es p => es.put p.1.name p.2.value) bound =
        bound.overlay (assignment vs choices) := by
      rw [Entries.overlay, assignment, List.foldl_map]
    refine ⟨choices, _, hchooses, hput ▸ hm, fun k hk => ?_⟩
    refine Entries.get?_overlay ?_ hk
    rw [keys_assignment hchooses.length_eq]
    intro j hj
    obtain ⟨v, hv, rfl⟩ := List.mem_map.mp hj
    exact hnames v hv

/-- Two variables of one name that is bound already. -/
def repeatedName : List Variable :=
  [.ofRange (.text "a") 2, .ofValues (.text "a") [.int 7]]

/-- The name keeps what the second variable assigns to it. -/
theorem combineItems_repeatedName :
    ∃ cs b, combineItems (repeatedName.map .declared) [.text "t"]
        [(.text "a", .int 0), (.text "z", .int 9)] = .ok cs ∧ cs.length = 2 ∧
      cs[1]? = some ([.text "t", .text "a", .text "1", .text "a", .text "7"], b) ∧
      b.get? (.text "a") = some (.int 7) ∧ b.get? (.text "z") = some (.int 9) := by
  have hcomposes := combineItems_composes (repeatedName.map .declared) [] [.text "t"]
    [(.text "a", .int 0), (.text "z", .int 9)]
  have hnames : ∀ v ∈ repeatedName, v.name.hashable = true := by
    simp only [repeatedName, List.forall_mem_cons]
    exact ⟨rfl, rfl, nofun⟩
  obtain ⟨cs, hcs, hlength, hat⟩ := hcomposes.2.2.2 repeatedName rfl hnames
  obtain ⟨choices, b, hchooses, hget, hb⟩ := hat 1 (by rw [hlength]; decide)
  match choices, hchooses with
  | [x, y], hchooses =>
    obtain rfl : x = ⟨.text "1", .int 1⟩ := Option.some.inj (hchooses.digit 0 _ rfl)
    obtain rfl : y = ⟨.text "7", .int 7⟩ := Option.some.inj (hchooses.digit 1 _ rfl)
    exact ⟨cs, b, hcs, hlength, hget, hb (.text "a") rfl, hb (.text "z") rfl⟩
  | [], h | [_], h | _ :: _ :: _ :: _, h => cases h.length_eq

end CaseGrid.Expansion
