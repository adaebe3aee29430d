import CaseGrid.Proofs.Suite.Expansion
import CaseGrid.Proofs.Tree.Filing

/-
  The tree of a product. The expansion goes through the candidates of the first variable in the
  outermost loop, so that the paths that begin alike stand together at every depth. Filing them one
  after the other makes one node for the first variable, below it one for each of its candidates,
  and below each of these the tree of the later variables.

  Proved: filing a product gives just this tree (`insertAll_filed`), in which the product is found
  in order (`found_product`, `leaves_product`); and the cases of scenarios whose titles are
  different give the trees of these scenarios side by side (`ofCases_casesOf_all`).
-/

namespace CaseGrid

open CaseGrid.Validation CaseGrid.Expansion

/-! ## Products after a path -/

namespace Expansion

/-- Combinations after a path are those after none, with the path before them. -/
theorem combine_shift (vs : List Variable) (path : Path) (bound : Entries Value) :
    combine vs path bound = (combine vs [] bound).map fun x => (path ++ x.1, x.2) := by
  induction vs generalizing path bound with
  | nil => simp [combine]
  | cons v vs ih =>
    rw [combine, combine, List.map_flatMap]
    refine List.flatMap_congr fun c _ => ?_
    rw [ih (path.extend v.name c.name), ih (Path.extend [] v.name c.name), List.map_map]
    refine List.map_congr_left fun x _ => ?_
    simp [Path.extend]

theorem combine_ne_nil {vs : List Variable} (h : ∀ v ∈ vs, v.values ≠ []) (path : Path)
    (bound : Entries Value) : combine vs path bound ≠ [] := by
  have hpos : ∀ vs : List Variable, (∀ v ∈ vs, v.values ≠ []) → 0 < gridSize vs := by
    intro vs h
    refine List.prod_pos fun n hn => ?_
    obtain ⟨v, hv, rfl⟩ := List.mem_map.mp hn
    exact List.length_pos_iff.mpr (h v hv)
  rw [← List.length_pos_iff, length_combine]
  exact hpos vs h

end Expansion

namespace Tree

variable {α : Type}

/-! ## Filing a product -/

/-- The combinations of some variables, each with what it stands for. -/
def filed (f : Combination → α) (vs : List Variable) (bound : Entries Value) : List (Path × α) :=
  (combine vs [] bound).map fun x => (x.1, f x)

/-- What a combination of the later variables stands for, after a variable and a candidate. -/
def after (f : Combination → α) (v : Variable) (c : Choice) : Combination → α :=
  fun x => f (v.name :: c.name :: x.1, x.2)

/-- The combinations of a variable and some more, block by block. -/
theorem filed_cons (f : Combination → α) (v : Variable) (vs : List Variable)
    (bound : Entries Value) :
    filed f (v :: vs) bound = under v.name (v.values.flatMap fun c =>
      under c.name (filed (after f v c) vs (bound.put v.name c.value))) := by
  rw [filed, combine, under, List.map_flatMap, List.map_flatMap]
  refine List.flatMap_congr fun c _ => ?_
  rw [combine_shift, under, filed, List.map_map, List.map_map, List.map_map]
  rfl

theorem filed_ne_nil {vs : List Variable} (h : ∀ v ∈ vs, v.values ≠ []) (f : Combination → α)
    (bound : Entries Value) : filed f vs bound ≠ [] := by
  rw [filed, Ne, List.map_eq_nil_iff]
  exact combine_ne_nil h _ _

/--
The tree of a product below a node of a name. The node has one child, the first variable, that one
has a child for each candidate, and each of these is the tree of the later variables.
-/
def product : List Variable → (Combination → α) → Entries Value → Int → Value → Tree α
  | [], f, bound, depth, n => .node n depth (some (f ([], bound))) []
  | v :: vs, f, bound, depth, n =>
    .node n depth none [(v.name, .node v.name (depth + 1) none (v.values.map fun c =>
      (c.name, product vs (after f v c) (bound.put v.name c.value) (depth + 1 + 1) c.name)))]

theorem name_product (vs : List Variable) (f : Combination → α) (bound : Entries Value)
    (depth : Int) (n : Value) : (product vs f bound depth n).name = n := by
  cases vs <;> rfl

theorem leaf_product {vs : List Variable} (h : vs ≠ []) (f : Combination → α)
    (bound : Entries Value) (depth : Int) (n : Value) :
    (product vs f bound depth n).leaf = none := by
  cases vs with
  | nil => exact absurd rfl h
  | cons v vs => rfl

/-- Filing a product gives the tree of the product. -/
theorem insertAll_filed {separator : String} {reserved : List Value} {vs : List Variable}
    (hvs : ∀ v ∈ vs, VariableKept separator reserved v) (f : Combination → α)
    (bound : Entries Value) (depth : Int) (n : Value) :
    insertAll (filed f vs bound) (bareAt depth n) = .ok (product vs f bound depth n) := by
  induction vs generalizing f bound depth n with
  | nil => rfl
  | cons v vs ih =>
    have hv := hvs v List.mem_cons_self
    have hlater : ∀ w ∈ vs, VariableKept separator reserved w := fun w hw => hvs w (.tail _ hw)
    have hname : v.name.IsText := by
      obtain ⟨r, hr, -⟩ := hv.name.identifier
      exact ⟨_, by rw [hr]; rfl⟩
    have hkeys : ∀ c ∈ v.values, c.name.IsText := by
      intro c hc
      obtain ⟨ps, hps, -⟩ := hv.choices.labels c hc
      exact ⟨ps, hps⟩
    have hblocks : ∀ c ∈ v.values,
        filed (after f v c) vs (bound.put v.name c.value) ≠ [] := fun c _ =>
      filed_ne_nil (fun w hw => (hlater w hw).values_ne_nil) _ _
    have hchildren : ∀ c ∈ v.values, insertAll (filed (after f v c) vs (bound.put v.name c.value))
        (bareAt (depth + 1 + 1) c.name) =
          .ok (product vs (after f v c) (bound.put v.name c.value) (depth + 1 + 1) c.name) :=
      fun c _ => ih hlater (after f v c) (bound.put v.name c.value) (depth + 1 + 1) c.name
    have hbelow : insertAll (v.values.flatMap fun c => under c.name
          (filed (after f v c) vs (bound.put v.name c.value))) (bareAt (depth + 1) v.name) = _ :=
      insertAll_blocks hkeys hv.choices.distinct hblocks (List.forall_mem_nil _) hchildren
    have hsome : (v.values.flatMap fun c => under c.name
        (filed (after f v c) vs (bound.put v.name c.value))) ≠ [] := by
      obtain ⟨c, cs, hcs⟩ := List.exists_cons_of_ne_nil hv.values_ne_nil
      have hc : c ∈ v.values := by
        rw [hcs]
        exact List.mem_cons_self
      simp [hcs, under, hblocks c hc]
    rw [filed_cons]
    exact insertAll_block (n := n) hname (List.forall_mem_nil _) hsome hbelow

/-- In the tree of a product the product is found in order. -/
theorem found_product (vs : List Variable) (f : Combination → α) (bound : Entries Value)
    (depth : Int) (n : Value) :
    found (product vs f bound depth n) = under n (filed f vs bound) := by
  induction vs generalizing f bound depth n with
  | nil => rfl
  | cons v vs ih =>
    rw [filed_cons, product, found_node_none, foundBelow, foundBelow, List.append_nil,
      found_node_none, foundBelow_eq, List.flatMap_map]
    simp only [ih]
    rfl

/-! ## The trees of scenarios -/

theorem ofCases_of_insertAll {defaults : Config} {cases : List Case} {t u : Tree Case}
    (h : insertAll (cases.map fun c => (c.path, c)) t = .ok u) :
    cases.foldlM (insertCase defaults) t = .ok u := by
  induction cases generalizing t with
  | nil =>
    cases h
    rfl
  | cons c cases ih =>
    obtain ⟨t', ht', hrest⟩ := insertAll_cons.mp h
    rw [List.foldlM_cons]
    exact bind_eq_ok_iff.mpr ⟨t', mapError_eq_ok_iff.mpr ht', ih hrest⟩

/-- The case that a combination of a scenario stands for. -/
def caseOf (s : Scenario) : Combination → Case :=
  fun x => ⟨s.title :: x.1, x.2, some s⟩

/-- The tree of the cases of a scenario, one level below the top. -/
def ofScenario (s : Scenario) (vs : List Variable) : Tree Case :=
  product vs (caseOf s) [] 1 s.title

theorem byPath_casesOf (s : Scenario) (vs : List Variable) :
    ((casesOf s vs).map fun c => (c.path, c)) = under s.title (filed (caseOf s) vs []) := by
  rw [casesOf, combine_shift, under, filed, List.map_map, List.map_map, List.map_map]
  rfl

theorem found_ofScenario (s : Scenario) (vs : List Variable) :
    found (ofScenario s vs) = (casesOf s vs).map fun c => (c.path, c) := by
  rw [ofScenario, found_product, byPath_casesOf]

/-- The cases of scenarios with different titles give the trees of the scenarios, in order. -/
theorem ofCases_casesOf_all (defaults : Config) {groups : List (Scenario × List Variable)}
    (hkept : ∀ g ∈ groups, ∃ config, Kept config g.1 g.2)
    (hdistinct : (groups.map fun g => g.1.title).Nodup) :
    ofCases defaults (groups.flatMap fun g => casesOf g.1 g.2) =
      .ok (.node (.text "") 0 none (groups.map fun g => (g.1.title, ofScenario g.1 g.2))) := by
  have htitles : ∀ g ∈ groups, g.1.title.IsText := by
    intro g hg
    obtain ⟨config, hg⟩ := hkept g hg
    obtain ⟨ps, hps, -⟩ := hg.frame.title
    exact ⟨ps, hps⟩
  have hblocks : ∀ g ∈ groups, filed (caseOf g.1) g.2 [] ≠ [] := by
    intro g hg
    obtain ⟨config, hg⟩ := hkept g hg
    exact filed_ne_nil (fun v hv => (hg.declared.each v hv).values_ne_nil) _ _
  have hproducts : ∀ g ∈ groups, insertAll (filed (caseOf g.1) g.2 []) (bareAt (0 + 1) g.1.title) =
      .ok (ofScenario g.1 g.2) := by
    intro g hg
    obtain ⟨config, hg⟩ := hkept g hg
    exact insertAll_filed hg.declared.each _ _ _ _
  have hall : insertAll (groups.flatMap fun g => under g.1.title (filed (caseOf g.1) g.2 []))
      (bareAt 0 (.text "")) = _ :=
    insertAll_blocks htitles hdistinct hblocks (List.forall_mem_nil _) hproducts
  refine ofCases_of_insertAll (t := bare (.text "")) ?_
  rw [List.map_flatMap]
  simp only [byPath_casesOf]
  exact hall

end Tree

end CaseGrid
