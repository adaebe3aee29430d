import CaseGrid.Proofs.Except
import CaseGrid.Tree

/-
  Two ways to an outline. A tree can be grown from bare paths, or cases can be filed in it, which
  fails where one path begins with another. The one way is the other with what was filed left out:
  filing a case makes the same nodes as growing its path, as long as it does not fail.

  Proved: an outline does not show what is filed (`outline_hollow`), one filing is one growth
  (`grow_of_insert`), and so the tree of the paths of some cases is that of the cases, hollow
  (`ofPaths_of_ofCases`).
-/

namespace CaseGrid.Tree

variable {α : Type}

/-! ## Trees with nothing filed -/

mutual

/-- A tree with nothing filed in it. -/
def hollow : Tree α → Tree Unit
  | .node n d _ es => .node n d none (hollowOf es)
termination_by structural t => t

/-- The trees under some keys, with nothing filed in them. -/
def hollowOf : List (Value × Tree α) → List (Value × Tree Unit)
  | [] => []
  | (k, t) :: es => (k, hollow t) :: hollowOf es
termination_by structural es => es

end

theorem name_hollow (t : Tree α) : t.hollow.name = t.name := by
  cases t
  rfl

mutual

/-- What is filed in a tree is not in its outline. -/
theorem outline_hollow (indent : String) : (t : Tree α) → t.hollow.outline indent = t.outline indent
  | .node _ _ _ es => outlineOf_hollowOf indent es
termination_by structural t => t

theorem outlineOf_hollowOf (indent : String) :
    (es : List (Value × Tree α)) → outlineOf indent (hollowOf es) = outlineOf indent es
  | [] => rfl
  | (_, t) :: es => by
    rw [hollowOf, outlineOf, outlineOf, name_hollow, outline_hollow indent t,
      outlineOf_hollowOf indent es]
termination_by structural es => es

end

/-! ## Filing as growth -/

/-- Children that are changed alike are hollow alike. -/
theorem changeChild_hollowOf {ε ε' : Type} {change : Tree α → Except ε (Tree α)}
    {grown : Tree Unit → Except ε' (Tree Unit)}
    (h : ∀ t t', change t = .ok t' → grown t.hollow = .ok t'.hollow) {depth : Int} {key : Value}
    {es es' : Entries (Tree α)} (hes : changeChild change depth key es = .ok es') :
    changeChild grown depth key (hollowOf es) = .ok (hollowOf es') := by
  induction es generalizing es' with
  | nil =>
    obtain ⟨t, ht, rfl⟩ := map_eq_ok_iff.mp hes
    exact map_eq_ok_iff.mpr ⟨t.hollow, h _ t ht, rfl⟩
  | cons e es ih =>
    obtain ⟨k, t⟩ := e
    rw [changeChild] at hes
    rw [hollowOf, changeChild]
    split at hes
    · rename_i hk
      obtain ⟨u, hu, rfl⟩ := map_eq_ok_iff.mp hes
      rw [if_pos hk, h t u hu]
      rfl
    · rename_i hk
      obtain ⟨es'', hes'', rfl⟩ := map_eq_ok_iff.mp hes
      rw [if_neg hk, ih hes'']
      rfl

/-- Where something can be filed under a path, the path grows to the same nodes. -/
theorem grow_of_insert {path : Path} {t t' : Tree α} {a : α} (h : insert path t a = .ok t') :
    grow path t.hollow = .ok t'.hollow := by
  induction path generalizing t t' with
  | nil =>
    obtain ⟨n, d, leaf, es⟩ := t
    rw [insert] at h
    split at h
    · cases h
    · cases h
      rfl
  | cons segment path ih =>
    obtain ⟨n, d, leaf, es⟩ := t
    rw [insert] at h
    split at h
    · cases h
    · split at h
      · cases h
      · rename_i key hkey
        obtain ⟨es', hes', rfl⟩ := map_eq_ok_iff.mp h
        rw [hollow, grow]
        refine bind_eq_ok_iff.mpr ⟨key, hkey, bind_eq_ok_iff.mpr ⟨hollowOf es', ?_, rfl⟩⟩
        exact changeChild_hollowOf (fun u u' hu => ih hu) hes'

/-- Filing cases one after the other grows their paths one after the other. -/
theorem grow_of_insertCases {defaults : Config} {cases : List Case} {t t' : Tree Case}
    (h : cases.foldlM (insertCase defaults) t = .ok t') :
    (cases.map Case.path).foldlM (fun t path => grow path t) t.hollow = .ok t'.hollow := by
  induction cases generalizing t with
  | nil =>
    cases h
    rfl
  | cons c cases ih =>
    rw [List.foldlM_cons] at h
    obtain ⟨u, hu, hrest⟩ := bind_eq_ok_iff.mp h
    rw [List.map_cons, List.foldlM_cons]
    exact bind_eq_ok_iff.mpr ⟨u.hollow, grow_of_insert (mapError_eq_ok_iff.mp hu), ih hrest⟩

/-- The tree of the paths of cases is the tree of the cases, with nothing filed. -/
theorem ofPaths_of_ofCases {defaults : Config} {cases : List Case} {t : Tree Case}
    (h : ofCases defaults cases = .ok t) : ofPaths (cases.map Case.path) = .ok t.hollow :=
  grow_of_insertCases h

end CaseGrid.Tree
