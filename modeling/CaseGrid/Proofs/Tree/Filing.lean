import CaseGrid.Proofs.Except
import CaseGrid.Proofs.Value.Texts
import CaseGrid.Tree

/-
  Filing under many paths, one after the other. A path that begins with the key of the last child
  goes on in that child, and a name that is no key gets a child at the end; so where the paths that
  begin with one name stand together, filing them is filing their rests below one node, and the
  children come in the order of the blocks.

  Proved: what filing one block does (`insertAll_block`), and from it what filing block after block
  does (`insertAll_blocks`), the children so far being the invariant.
-/

namespace CaseGrid

namespace Tree

variable {α : Type}

/-! ## Going down -/

mutual

/--
What is found by going down from a node, each with the names on the way. A node that holds something
is an end, whatever is below it.
-/
def found : Tree α → List (Path × α)
  | .node name _ leaf entries =>
    match leaf with
    | some a => [([name], a)]
    | none => (foundBelow entries).map fun x => (name :: x.1, x.2)
termination_by structural t => t

/-- What is found by going down from the nodes under some keys, in order. -/
def foundBelow : List (Value × Tree α) → List (Path × α)
  | [] => []
  | (_, t) :: es => found t ++ foundBelow es
termination_by structural es => es

end

/-- What is found by going down from some nodes, in order. -/
def foundIn (ts : List (Tree α)) : List (Path × α) :=
  ts.flatMap found

theorem found_node_none (name : Value) (depth : Int) (es : Entries (Tree α)) :
    found (.node name depth none es) = (foundBelow es).map fun x => (name :: x.1, x.2) := rfl

theorem foundBelow_eq (es : Entries (Tree α)) : foundBelow es = es.flatMap fun e => found e.2 := by
  induction es with
  | nil => rfl
  | cons e es ih => rw [foundBelow, ih, List.flatMap_cons]

theorem foundIn_children_eq (t : Tree α) : foundIn t.children = foundBelow t.entries := by
  rw [foundIn, children, List.flatMap_map, foundBelow_eq]

/-! ## One more path -/

/-- A name that is no key gets a child at the end. -/
theorem changeChild_new {ε : Type} {change : Tree α → Except ε (Tree α)} {key : Value}
    {depth : Int} {done : Entries (Tree α)} (h : ∀ e ∈ done, e.1.alike key = false) :
    changeChild change depth key done =
      (change (bareAt (depth + 1) key)).map fun t => done ++ [(key, t)] := by
  induction done with
  | nil => rfl
  | cons e done ih =>
    rw [changeChild, if_neg (by simp [h e List.mem_cons_self]), ih fun f hf => h f (.tail _ hf)]
    cases change (bareAt (depth + 1) key) <;> rfl

/-- The child that is changed is the first one of the key. -/
theorem changeChild_first {ε : Type} {change : Tree α → Except ε (Tree α)} {k key : Value}
    {depth : Int} {before after : Entries (Tree α)} {t : Tree α}
    (h : ∀ e ∈ before, e.1.alike key = false) (hk : k.alike key = true) :
    changeChild change depth key (before ++ (k, t) :: after) =
      (change t).map fun u => before ++ (k, u) :: after := by
  induction before with
  | nil => rw [List.nil_append, changeChild, if_pos hk]; rfl
  | cons e before ih =>
    rw [List.cons_append, changeChild, if_neg (by simp [h e List.mem_cons_self]),
      ih fun f hf => h f (.tail _ hf)]
    cases change t <;> rfl

section Blocks

variable {n key : Value} {depth : Int} {done : Entries (Tree α)}

theorem insert_cons (hkey : key.IsText) (path : Path) (es : Entries (Tree α)) (a : α) :
    insert (key :: path) (.node n depth none es) a =
      (changeChild (fun t => insert path t a) depth key es).map fun es' =>
        .node n depth none es' := by
  rw [insert, hkey.key]
  rfl

theorem insert_new (hkey : key.IsText) (hdone : ∀ e ∈ done, e.1.alike key = false)
    (path : Path) (a : α) : insert (key :: path) (.node n depth none done) a =
      (insert path (bareAt (depth + 1) key) a).map fun t =>
        .node n depth none (done ++ [(key, t)]) := by
  rw [insert_cons hkey, changeChild_new hdone]
  cases insert path (bareAt (depth + 1) key) a <;> rfl

theorem insert_first {before after : Entries (Tree α)} {t : Tree α} (hkey : key.IsText)
    (hbefore : ∀ e ∈ before, e.1.alike key = false) (path : Path) (a : α) :
    insert (key :: path) (.node n depth none (before ++ (key, t) :: after)) a =
      (insert path t a).map fun u => .node n depth none (before ++ (key, u) :: after) := by
  rw [insert_cons hkey, changeChild_first hbefore (hkey.alike_iff.mpr rfl)]
  cases insert path t a <;> rfl

/-! ## Many paths -/

/-- The tree with several things filed in it, one after the other. -/
def insertAll (xs : List (Path × α)) (t : Tree α) : Except Conflict (Tree α) :=
  xs.foldlM (fun t x => insert x.1 t x.2) t

/-- The paths with a segment before each of them. -/
def under (key : Value) (xs : List (Path × α)) : List (Path × α) :=
  xs.map fun x => (key :: x.1, x.2)

theorem insertAll_cons {x : Path × α} {xs : List (Path × α)} {t u : Tree α} :
    insertAll (x :: xs) t = .ok u ↔ ∃ t', insert x.1 t x.2 = .ok t' ∧ insertAll xs t' = .ok u := by
  rw [insertAll, List.foldlM_cons]
  exact bind_eq_ok_iff

theorem insertAll_append {xs ys : List (Path × α)} {t u : Tree α} :
    insertAll (xs ++ ys) t = .ok u ↔
      ∃ t', insertAll xs t = .ok t' ∧ insertAll ys t' = .ok u := by
  rw [insertAll, List.foldlM_append]
  exact bind_eq_ok_iff

/-- Paths that begin with the key of the last child are filed below it. -/
theorem insertAll_last {t u : Tree α} (hkey : key.IsText)
    (hdone : ∀ e ∈ done, e.1.alike key = false) {xs : List (Path × α)}
    (h : insertAll xs t = .ok u) :
    insertAll (under key xs) (.node n depth none (done ++ [(key, t)])) =
      .ok (.node n depth none (done ++ [(key, u)])) := by
  induction xs generalizing t with
  | nil =>
    cases h
    rfl
  | cons x xs ih =>
    obtain ⟨t', ht', hrest⟩ := insertAll_cons.mp h
    refine insertAll_cons.mpr ⟨.node n depth none (done ++ [(key, t')]), ?_, ih hrest⟩
    rw [insert_first hkey hdone, ht']
    rfl

/-- Paths that begin with a name that is no key are filed below a child at the end. -/
theorem insertAll_block {u : Tree α} (hkey : key.IsText)
    (hdone : ∀ e ∈ done, e.1.alike key = false) {xs : List (Path × α)} (hxs : xs ≠ [])
    (h : insertAll xs (bareAt (depth + 1) key) = .ok u) :
    insertAll (under key xs) (.node n depth none done) =
      .ok (.node n depth none (done ++ [(key, u)])) := by
  obtain ⟨x, xs, rfl⟩ := List.exists_cons_of_ne_nil hxs
  obtain ⟨t, ht, hrest⟩ := insertAll_cons.mp h
  refine insertAll_cons.mpr ⟨.node n depth none (done ++ [(key, t)]), ?_, ?_⟩
  · rw [insert_new hkey hdone, ht]
    rfl
  · exact insertAll_last hkey hdone hrest

end Blocks

/-- Blocks of paths, one for each of some names, are filed below one child for each of them. -/
theorem insertAll_blocks {β : Type} {n : Value} {depth : Int} {bs : List β} {key : β → Value}
    {block : β → List (Path × α)} {child : β → Tree α} {done : Entries (Tree α)}
    (hkey : ∀ b ∈ bs, (key b).IsText) (hdistinct : (bs.map key).Nodup)
    (hblock : ∀ b ∈ bs, block b ≠ []) (hdone : ∀ e ∈ done, ∀ b ∈ bs, e.1.alike (key b) = false)
    (h : ∀ b ∈ bs, insertAll (block b) (bareAt (depth + 1) (key b)) = .ok (child b)) :
    insertAll (bs.flatMap fun b => under (key b) (block b)) (.node n depth none done) =
      .ok (.node n depth none (done ++ bs.map fun b => (key b, child b))) := by
  induction bs generalizing done with
  | nil =>
    rw [List.map_nil, List.append_nil]
    rfl
  | cons b bs ih =>
    rw [List.map_cons, List.nodup_cons] at hdistinct
    have hb := hkey b List.mem_cons_self
    have hfirst := insertAll_block (n := n) hb (fun e he => hdone e he b List.mem_cons_self)
      (hblock b List.mem_cons_self) (h b List.mem_cons_self)
    have hdone' : ∀ e ∈ done ++ [(key b, child b)], ∀ c ∈ bs, e.1.alike (key c) = false := by
      intro e he c hc
      rcases List.mem_append.mp he with he | he
      · exact hdone e he c (.tail _ hc)
      · rw [List.mem_singleton.mp he]
        refine hb.alike_eq_false fun heq => ?_
        exact hdistinct.1 (heq ▸ List.mem_map_of_mem hc)
    have hrest := ih (fun c hc => hkey c (.tail _ hc)) hdistinct.2
      (fun c hc => hblock c (.tail _ hc)) hdone' (fun c hc => h c (.tail _ hc))
    rw [List.flatMap_cons, insertAll_append]
    refine ⟨_, hfirst, ?_⟩
    rw [hrest, List.map_cons, List.append_assoc]
    rfl

end Tree

end CaseGrid
