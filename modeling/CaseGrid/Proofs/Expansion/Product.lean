import CaseGrid.Proofs.Expansion.Outcome
import CaseGrid.Proofs.Value.Entries

/-
  The cases of an expansion are the product of the candidates. The digits of the index of a case,
  in the mixed radix of the numbers of candidates, are the positions of the candidates that it
  chooses; the last variable is the last digit.

  The first variable splits the combinations into blocks of one length, the number of combinations
  of the later variables, and the quotient and the remainder of an index by that length say which
  block it lies in and where. `combine_getElem?` carries this through the recursion, for any path
  and bindings so far.
-/

namespace CaseGrid.Expansion

open CaseGrid.Validation

/-! ## Blocks of one length -/

theorem getElem?_flatMap_blocks {α β : Type} {f : α → List β} {n : Nat} (hn : 0 < n)
    {l : List α} (h : ∀ a ∈ l, (f a).length = n) (m : Nat) :
    (l.flatMap f)[m]? = l[m / n]?.bind fun a => (f a)[m % n]? := by
  induction l generalizing m with
  | nil => simp
  | cons a l ih =>
    have ha : (f a).length = n := h a (by simp)
    rw [List.flatMap_cons]
    by_cases hm : m < n
    · rw [List.getElem?_append_left (by omega), Nat.div_eq_of_lt hm, Nat.mod_eq_of_lt hm]
      rfl
    · rw [List.getElem?_append_right (by omega), ha, ih (fun b hb => h b (by simp [hb]))]
      have hdiv : m / n = (m - n) / n + 1 := by
        rw [← Nat.add_div_right _ hn, Nat.sub_add_cancel (by omega)]
      have hmod : m % n = (m - n) % n := Nat.mod_eq_sub_mod (by omega)
      rw [hdiv, hmod, List.getElem?_cons_succ]

theorem gridSize_cons (v : Variable) (vs : List Variable) :
    gridSize (v :: vs) = v.values.length * gridSize vs := by
  rw [gridSize, List.map_cons, List.prod_cons]
  rfl

theorem length_combine (vs : List Variable) (path : Path) (bound : Entries Value) :
    (combine vs path bound).length = gridSize vs := by
  induction vs generalizing path bound with
  | nil => rfl
  | cons v vs ih => simp [combine, ih, gridSize_cons, List.length_flatMap]

/-! ## What an index chooses -/

/-- `cs` are the candidates at the digits of `m`, one for each variable. -/
structure Chooses (vs : List Variable) (m : Nat) (cs : List Choice) : Prop where
  length_eq : cs.length = vs.length
  digit : ∀ j v, vs[j]? = some v →
    cs[j]? = v.values[m / gridSize (vs.drop (j + 1)) % v.values.length]?

/-- The names of variables, each followed by that of its candidate. -/
def segments (vs : List Variable) (cs : List Choice) : Path :=
  (vs.zip cs).flatMap fun p => [p.1.name, p.2.name]

/-- The number of combinations from some variable on divides that of all. -/
theorem gridSize_drop_dvd {vs : List Variable} {j : Nat} {v : Variable} (h : vs[j]? = some v) :
    v.values.length * gridSize (vs.drop (j + 1)) ∣ gridSize vs := by
  induction vs generalizing j with
  | nil => cases h
  | cons w vs ih =>
    cases j with
    | zero =>
      cases h
      exact dvd_of_eq (gridSize_cons v vs).symm
    | succ j =>
      rw [gridSize_cons]
      exact Dvd.dvd.mul_left (ih h) _

theorem chooses_nil (m : Nat) : Chooses [] m [] :=
  ⟨rfl, by simp⟩

/-- The first digit is the quotient, and the remainder has the other digits. -/
theorem chooses_cons {v : Variable} {vs : List Variable} {m : Nat} {c : Choice}
    {cs : List Choice} (hm : m / gridSize vs < v.values.length)
    (hc : v.values[m / gridSize vs]? = some c) (hcs : Chooses vs (m % gridSize vs) cs) :
    Chooses (v :: vs) m (c :: cs) := by
  refine ⟨by simp [hcs.length_eq], ?_⟩
  intro j w hw
  cases j with
  | zero =>
    cases hw
    rw [List.drop_succ_cons, List.drop_zero, Nat.mod_eq_of_lt hm, hc]
    rfl
  | succ j =>
    rw [List.getElem?_cons_succ] at hw ⊢
    rw [List.drop_succ_cons, hcs.digit j w hw]
    have hdigit : m % gridSize vs / gridSize (vs.drop (j + 1)) % w.values.length =
        m / gridSize (vs.drop (j + 1)) % w.values.length := by
      rw [← Nat.mod_mul_left_div_self, ← Nat.mod_mul_left_div_self,
        Nat.mod_mod_of_dvd _ (gridSize_drop_dvd hw)]
    rw [hdigit]

/-- The combination at an index, after a path and bindings so far. -/
theorem combine_getElem? {vs : List Variable} (path : Path) (bound : Entries Value) {m : Nat}
    (hm : m < gridSize vs) :
    ∃ cs, Chooses vs m cs ∧
      (combine vs path bound)[m]? = some (path ++ segments vs cs,
        (vs.zip cs).foldl (fun es p => es.put p.1.name p.2.value) bound) := by
  induction vs generalizing path bound m with
  | nil =>
    obtain rfl : m = 0 := by
      have : gridSize [] = 1 := rfl
      omega
    exact ⟨[], chooses_nil 0, by simp [combine, segments]⟩
  | cons v vs ih =>
    rw [gridSize_cons] at hm
    have hpos : 0 < gridSize vs := by
      rcases Nat.eq_zero_or_pos (gridSize vs) with h | h
      · rw [h, Nat.mul_zero] at hm
        omega
      · exact h
    have hdiv : m / gridSize vs < v.values.length := (Nat.div_lt_iff_lt_mul hpos).mpr hm
    have hc : v.values[m / gridSize vs]? = some v.values[m / gridSize vs] :=
      List.getElem?_eq_getElem hdiv
    obtain ⟨cs, hcs, hcombine⟩ := ih (path.extend v.name v.values[m / gridSize vs].name)
      (bound.put v.name v.values[m / gridSize vs].value) (Nat.mod_lt m hpos)
    refine ⟨v.values[m / gridSize vs] :: cs, chooses_cons hdiv hc hcs, ?_⟩
    rw [combine, getElem?_flatMap_blocks hpos (fun c _ => length_combine vs _ _), hc,
      Option.bind_some, hcombine]
    simp [segments, Path.extend]

/-! ## Different combinations -/

theorem prefix_of_mem_combine {vs : List Variable} {path : Path} {bound : Entries Value}
    {x : Combination} (h : x ∈ combine vs path bound) : path <+: x.1 := by
  induction vs generalizing path bound with
  | nil =>
    obtain rfl := List.mem_singleton.mp h
    exact List.prefix_refl _
  | cons v vs ih =>
    obtain ⟨c, -, hx⟩ := List.mem_flatMap.mp h
    exact (List.prefix_append _ _).trans (ih hx)

/-- Candidates with different names give combinations with different paths. -/
theorem nodup_combine {vs : List Variable}
    (h : ∀ v ∈ vs, (v.values.map Choice.name).Nodup) (path : Path) (bound : Entries Value) :
    ((combine vs path bound).map Prod.fst).Nodup := by
  induction vs generalizing path bound with
  | nil => exact List.nodup_singleton _
  | cons v vs ih =>
    rw [combine, List.map_flatMap, List.nodup_flatMap]
    refine ⟨fun c _ => ih (fun w hw => h w (by simp [hw])) _ _, ?_⟩
    refine (List.pairwise_map.mp (h v (by simp))).imp ?_
    intro c d hne p hp hq
    obtain ⟨x, hx, rfl⟩ := List.mem_map.mp hp
    obtain ⟨y, hy, hxy⟩ := List.mem_map.mp hq
    have hc := prefix_of_mem_combine hx
    have hd := hxy ▸ prefix_of_mem_combine hy
    have heq : path.extend v.name c.name = path.extend v.name d.name :=
      (List.prefix_of_prefix_length_le hc hd (by simp [Path.extend])).eq_of_length
        (by simp [Path.extend])
    exact hne (by simpa [Path.extend] using heq)

/-! ## Bindings and choices -/

/-- What the variables are bound to. -/
def assignment (vs : List Variable) (cs : List Choice) : Entries Value :=
  (vs.zip cs).map fun p => (p.1.name, p.2.value)

theorem keys_assignment {vs : List Variable} {cs : List Choice} (h : cs.length = vs.length) :
    (assignment vs cs).keys = vs.map Variable.name := by
  have hfst : (vs.zip cs).map (fun p => p.1) = vs := List.map_fst_zip (by omega)
  rw [Entries.keys, assignment, List.map_map]
  conv_rhs => rw [← hfst, List.map_map]
  rfl

/-- Different names that are not bound yet are bound one after the other. -/
theorem foldl_put {vs : List Variable} {cs : List Choice} {bound : Entries Value}
    (hlength : cs.length = vs.length) (htext : ∀ v ∈ vs, ∃ s, v.name = .text s)
    (hdistinct : (vs.map Variable.name).Nodup) (hnew : ∀ v ∈ vs, v.name ∉ bound.keys) :
    (vs.zip cs).foldl (fun es p => es.put p.1.name p.2.value) bound =
      bound ++ assignment vs cs := by
  induction vs generalizing cs bound with
  | nil => simp [assignment]
  | cons v vs ih =>
    cases cs with
    | nil => cases hlength
    | cons c cs =>
      rw [List.map_cons, List.nodup_cons] at hdistinct
      obtain ⟨s, hs⟩ := htext v (by simp)
      have hput : bound.put v.name c.value = bound ++ [(v.name, c.value)] := by
        rw [hs]
        exact Entries.put_of_new _ (hs ▸ hnew v (by simp))
      rw [List.zip_cons_cons, List.foldl_cons, hput,
        ih (by simpa using hlength) (fun w hw => htext w (by simp [hw])) hdistinct.2 ?_]
      · simp [assignment]
      · intro w hw hmem
        rw [Entries.keys, List.map_append, List.mem_append] at hmem
        rcases hmem with hmem | hmem
        · exact hnew w (by simp [hw]) hmem
        · have heq : w.name = v.name := by simpa using hmem
          exact hdistinct.1 (heq ▸ List.mem_map_of_mem hw)

theorem pairs_segments (vs : List Variable) (cs : List Choice) :
    Path.choices.pairs (segments vs cs) = (vs.zip cs).map fun p => (p.1.name, p.2.name) := by
  rw [segments]
  induction vs.zip cs with
  | nil => rfl
  | cons p ps ih =>
    rw [List.flatMap_cons, List.map_cons, ← ih]
    rfl

/-- The case at an index of a scenario that keeps the rules. -/
theorem casesOf_getElem? {config : Config} {s : Scenario} {vs : List Variable}
    (h : Kept config s vs) {m : Nat} (hm : m < gridSize vs) :
    ∃ cs, Chooses vs m cs ∧
      (casesOf s vs)[m]? = some ⟨s.title :: segments vs cs, assignment vs cs, some s⟩ := by
  obtain ⟨cs, hcs, hcombine⟩ := combine_getElem? [s.title] [] hm
  have htext (v : Variable) (hv : v ∈ vs) : ∃ r, v.name = .text r := by
    obtain ⟨r, hr, -⟩ := (h.declared.each v hv).name.identifier
    exact ⟨r, hr⟩
  refine ⟨cs, hcs, ?_⟩
  rw [casesOf, List.getElem?_map, hcombine,
    foldl_put hcs.length_eq htext h.declared.distinct (by simp [Entries.keys])]
  rfl

/-- Each case of a scenario is the one at some index. -/
theorem chosen_of_mem_casesOf {config : Config} {s : Scenario} {vs : List Variable}
    (h : Kept config s vs) {c : Case} (hc : c ∈ casesOf s vs) :
    ∃ m cs, m < gridSize vs ∧ Chooses vs m cs ∧
      c = ⟨s.title :: segments vs cs, assignment vs cs, some s⟩ := by
  obtain ⟨m, hm, hget⟩ := List.mem_iff_getElem.mp hc
  rw [casesOf, List.length_map, length_combine] at hm
  obtain ⟨cs, hcs, hcase⟩ := casesOf_getElem? h hm
  obtain ⟨_, heq⟩ := List.getElem?_eq_some_iff.mp hcase
  exact ⟨m, cs, hm, hcs, hget.symm.trans heq⟩

theorem Chooses.mem_values {vs : List Variable} {m : Nat} {cs : List Choice}
    (h : Chooses vs m cs) {p : Variable × Choice} (hp : p ∈ vs.zip cs) : p.2 ∈ p.1.values := by
  obtain ⟨j, hj⟩ := List.getElem?_of_mem hp
  obtain ⟨hv, hc⟩ := List.getElem?_zip_eq_some.mp hj
  rw [h.digit j p.1 hv] at hc
  exact List.mem_of_getElem? hc

/-- A variable is bound to the value declared under the name that was chosen. -/
theorem get?_assignment {config : Config} {s : Scenario} {vs : List Variable}
    (h : Kept config s vs) {cs : List Choice} (hlength : cs.length = vs.length) {j : Nat}
    {v : Variable} {c d : Choice} (hv : vs[j]? = some v) (hc : cs[j]? = some c)
    (hcv : c ∈ v.values) (hd : d ∈ v.values) (hname : d.name = c.name) :
    (assignment vs cs).get? v.name = some d.value := by
  have hvm : v ∈ vs := List.mem_of_getElem? hv
  have hkept := h.declared.each v hvm
  obtain rfl : d = c := List.inj_on_of_nodup_map hkept.choices.distinct hd hcv hname
  obtain ⟨r, hr, -⟩ := hkept.name.identifier
  rw [hr]
  refine Entries.get?_of_mem ?_ ?_
  · rw [keys_assignment hlength]
    exact h.declared.distinct
  · rw [← hr, assignment]
    have hzip : (vs.zip cs)[j]? = some (v, d) := List.getElem?_zip_eq_some.mpr ⟨hv, hc⟩
    exact List.mem_map.mpr ⟨(v, d), List.mem_of_getElem? hzip, rfl⟩

/-! ## The product -/

/--
An expansion has one case for each index below the product of the numbers of candidates. The case
at an index chooses the candidates at the digits of the index: its path is the title and these
choices, and each variable is bound, in order of declaration, to the value declared under the name
that was chosen for it.
-/
theorem expand_product {config : Config} {s : Scenario} {cases : List Case} {t t' : Trace}
    (h : expand config s t = (.ok cases, t')) :
    ∃ vs : List Variable, s.items = vs.map .declared ∧
      cases.length = (vs.map fun v => v.values.length).prod ∧
      ∀ m, m < (vs.map fun v => v.values.length).prod →
        ∃ (c : Case) (cs : List Choice), cases[m]? = some c ∧ cs.length = vs.length ∧
          (∀ (j : Nat) (v : Variable), vs[j]? = some v → cs[j]? = v.values[m /
            ((vs.drop (j + 1)).map fun w => w.values.length).prod % v.values.length]?) ∧
          c.path = s.title :: (vs.zip cs).flatMap (fun p => [p.1.name, p.2.name]) ∧
          c.choices = (vs.zip cs).map (fun p => (p.1.name, p.2.name)) ∧
          c.bindings.keys = vs.map Variable.name ∧ (vs.map Variable.name).Nodup ∧
          c.bindings = (vs.zip cs).map (fun p => (p.1.name, p.2.value)) ∧
          (∀ (j : Nat) (v : Variable) (x y : Choice), vs[j]? = some v → cs[j]? = some x →
            y ∈ v.values → y.name = x.name → c.bindings.get? v.name = some y.value) ∧
          c.scenario = some s := by
  obtain ⟨vs, hkept, rfl⟩ := kept_of_expand h
  have hlength : (casesOf s vs).length = gridSize vs := by
    rw [casesOf, List.length_map, length_combine]
  refine ⟨vs, hkept.items, hlength, ?_⟩
  intro m hm
  obtain ⟨cs, hcs, hcase⟩ := casesOf_getElem? hkept hm
  refine ⟨_, cs, hcase, hcs.length_eq, hcs.digit, rfl, pairs_segments vs cs,
    keys_assignment hcs.length_eq, hkept.declared.distinct, rfl, ?_, rfl⟩
  intro j v x y hv hx hy hyx
  have hxv : x ∈ v.values := by
    rw [hcs.digit j v hv] at hx
    exact List.mem_of_getElem? hx
  exact get?_assignment hkept hcs.length_eq hv hx hxv hy hyx

/-- Case 5 of three by three chooses candidate 1, then candidate 2. -/
theorem expand_gridOf_two_three :
    ∃ cases t', expand {} (gridOf 2 3) default = (.ok cases, t') ∧ cases.length = 9 ∧
      ∃ c, cases[5]? = some c ∧
        c.path = [.text "t", .text "v0", .text "1", .text "v1", .text "2"] := by
  have hrun := expand_of_kept (gridOf_kept rfl (by decide) (by decide) (by simp) :
    Kept {} (gridOf 2 3) (axes 2 3)) default
  obtain ⟨vs, hitems, hlength, hcases⟩ := expand_product hrun
  obtain rfl : axes 2 3 = vs :=
    List.map_injective_iff.mpr (fun v w h => Item.declared.inj h) hitems
  obtain ⟨c, cs, hc, hcs, hdigit, hpath, -⟩ := hcases 5 (by decide)
  match cs, hcs with
  | [x, y], _ =>
    obtain rfl : x = ⟨.text "1", .int 1⟩ := Option.some.inj (hdigit 0 _ rfl)
    obtain rfl : y = ⟨.text "2", .int 2⟩ := Option.some.inj (hdigit 1 _ rfl)
    exact ⟨_, _, hrun, hlength, c, hc, hpath⟩

end CaseGrid.Expansion
