import CaseGrid.Proofs.Tree.Building
import Mathlib.Data.List.Perm.Basic

/-
  What a tree of cases says about them. Going down from the root, the keys on the way are the names
  of the nodes, under which a node is found again; they are the path of the case that it holds. The
  cases come out depth first, and of two of them the one whose name after the common beginning was
  seen first.

  Proved: what was filed below a node is known by the keys to it (`Files.at`), a node is found under
  these keys just if they lead to it (`Files.get_eq_ok_iff`), what is stored in a tree is what was
  filed, in the order of first sight (`Files.stores`), and from these what the tree of a list of
  cases is (`ofCases_faithful`).
-/

namespace CaseGrid

namespace Tree

variable {α : Type} {xs : List (Path × α)} {n : Value} {d : Int} {t u : Tree α} {keys : Path}

/-! ## The nodes of a tree -/

/-- A node at the end of some keys, each of them that of a child of the node before. -/
inductive At : Path → Tree α → Tree α → Prop
  | here (t : Tree α) : At [] t t
  | down {key : Value} {keys : Path} {t c u : Tree α} :
    (key, c) ∈ t.entries → At keys c u → At (key :: keys) t u

/-- What follows some keys at the beginning of paths. -/
def restsOf (keys : Path) (xs : List (Path × α)) : List (Path × α) :=
  keys.foldl (fun ys key => rests key ys) xs

theorem mem_restsOf_iff (h : Texts xs) {path : Path} {a : α} :
    (path, a) ∈ restsOf keys xs ↔ (keys ++ path, a) ∈ xs := by
  induction keys generalizing xs with
  | nil => rfl
  | cons key keys ih =>
    rw [restsOf, List.foldl_cons, ← restsOf, ih (h.rests key), mem_rests_iff h]
    rfl

theorem Texts.restsOf (h : Texts xs) (keys : Path) : Texts (restsOf keys xs) := by
  induction keys generalizing xs with
  | nil => exact h
  | cons key keys ih => exact ih (h.rests key)

/-- The keys of a node are the names that come next. -/
theorem Files.keys_eq (h : Files n d xs t) (hne : t.entries ≠ []) : t.entries.keys = heads xs := by
  cases h with
  | leaf n d a => exact absurd rfl hne
  | inner nonempty keys below => exact keys

theorem Files.of_child (h : Files n d xs t) {e : Value × Tree α} (he : e ∈ t.entries) :
    Files e.1 (d + 1) (rests e.1 xs) e.2 := by
  cases h with
  | leaf n d a => exact absurd he List.not_mem_nil
  | inner nonempty keys below => exact below e he

/-- What was filed below a node is what follows the keys to it. -/
theorem Files.at (h : Files n d xs t) (hat : At keys t u) :
    ∃ m, Files m (d + keys.length) (restsOf keys xs) u := by
  induction hat generalizing n d xs with
  | here t =>
    rw [List.length_nil, Int.natCast_zero, Int.add_zero]
    exact ⟨n, h⟩
  | down hc _ ih =>
    have hchild := ih (h.of_child hc)
    rw [List.length_cons, Int.natCast_succ, Int.add_comm _ 1, ← Int.add_assoc]
    exact hchild

/-- Something was filed below every node but the root. -/
theorem Files.restsOf_ne_nil (h : Files n d xs t) (hxs : Texts xs) (hat : At keys t u)
    (hne : keys = [] → xs ≠ []) : restsOf keys xs ≠ [] := by
  induction hat generalizing n d xs with
  | here t => exact hne rfl
  | @down key keys t c u hc _ ih =>
    refine ih (h.of_child hc) (hxs.rests key) fun _ => ?_
    rw [Ne, rests_eq_nil_iff hxs, not_not, ← h.keys_eq (List.ne_nil_of_mem hc)]
    exact List.mem_map_of_mem hc

theorem Files.name_eq (h : Files n d xs t) : t.name = n := by
  cases h <;> rfl

theorem Files.depth_eq (h : Files n d xs t) : t.depth = d := by
  cases h <;> rfl

theorem Files.eq_of_leaf (h : Files n d xs t) {a : α} (ha : t.leaf = some a) : xs = [([], a)] := by
  cases h with
  | leaf n d b =>
    cases ha
    rfl
  | inner nonempty keys below => cases ha

/-- A node in which something was filed holds something just if nothing is below it. -/
theorem Files.isSome_iff (h : Files n d xs t) (hxs : Texts xs) (hne : xs ≠ []) :
    t.leaf.isSome ↔ t.entries = [] := by
  cases h with
  | leaf n d a => exact iff_of_true rfl rfl
  | @inner n d xs es nonempty keys below =>
    refine iff_of_false nofun fun hnone => ?_
    obtain ⟨⟨path, a⟩, hx⟩ := List.exists_mem_of_ne_nil xs hne
    obtain ⟨k, path, rfl⟩ := List.exists_cons_of_ne_nil (nonempty _ hx)
    have hk : k ∈ es.keys := by
      rw [keys]
      exact (mem_heads_iff hxs).mpr ⟨path, a, hx⟩
    rw [show es = [] from hnone] at hk
    exact List.not_mem_nil hk

/-- The keys of a node are different texts. -/
theorem Files.keys_spec (h : Files n d xs t) (hxs : Texts xs) :
    (∀ e ∈ t.entries, e.1.IsText) ∧ t.entries.keys.Nodup := by
  cases h with
  | leaf n d a => exact ⟨List.forall_mem_nil _, List.nodup_nil⟩
  | inner nonempty keys below => exact ⟨isText_key hxs keys, keys.symm ▸ nodup_heads hxs⟩

/-- A node is found under some keys just if they lead to it. -/
theorem Files.get_eq_ok_iff (h : Files n d xs t) (hxs : Texts xs) :
    t.get keys = .ok u ↔ At keys t u := by
  induction keys generalizing n d xs t with
  | nil =>
    constructor
    · intro hget
      cases hget
      exact .here u
    · intro hat
      cases hat
      rfl
  | cons key keys ih =>
    obtain ⟨htexts, hdistinct⟩ := h.keys_spec hxs
    have hchild {c : Tree α} : t.child? key = some c ↔ (key, c) ∈ t.entries :=
      Entries.get?_eq_some_iff htexts hdistinct
    rw [get, bind_eq_ok_iff]
    constructor
    · rintro ⟨key', hkey, hget⟩
      obtain rfl := Value.eq_of_key hkey
      split at hget
      · rename_i c hfound
        have hc := hchild.mp hfound
        exact .down hc ((ih (h.of_child hc) (hxs.rests key')).mp hget)
      · cases hget
    · intro hat
      cases hat with
      | @down _ _ _ c _ hc hat =>
        refine ⟨key, (htexts _ hc).key, ?_⟩
        rw [hchild.mpr hc]
        exact (ih (h.of_child hc) (hxs.rests key)).mpr hat

/-! ## What is stored in a tree -/

/-- What is stored in a tree, each with the keys to it. -/
def stored : Tree α → List (Path × α)
  | .node _ _ leaf es =>
    match leaf with
    | some a => [([], a)]
    | none => foundBelow es

theorem found_eq (t : Tree α) : found t = under t.name (stored t) := by
  obtain ⟨n, d, leaf, es⟩ := t
  cases leaf <;> rfl

theorem leavesOf_eq (es : Entries (Tree α)) : leavesOf es = es.flatMap fun e => leaves e.2 := by
  induction es with
  | nil => rfl
  | cons e es ih => rw [leavesOf, ih, List.flatMap_cons]

/-- After what they have in common, the one path goes on with a name that is seen first there. -/
def Earlier (paths : List Path) (p q : Path) : Prop :=
  ∃ (common : Path) (a b : Value) (r s : Path), p = common ++ a :: r ∧ q = common ++ b :: s ∧
    a ≠ b ∧ SeenBefore (common ++ [a]) (common ++ [b]) paths

theorem Earlier.cons {key : Value} {paths : List Path} {p q : Path}
    (hpaths : ∀ path ∈ paths, ∀ v ∈ path, v.IsText)
    (h : Earlier (paths.filterMap (rest? key)) p q) : Earlier paths (key :: p) (key :: q) := by
  obtain ⟨common, a, b, r, s, rfl, rfl, hne, hseen⟩ := h
  exact ⟨key :: common, a, b, r, s, rfl, rfl, hne, hseen.cons hpaths⟩

/-- What is stored in a tree is what was filed in it, in the order of first sight. -/
structure Stores (xs : List (Path × α)) (t : Tree α) : Prop where
  perm : (stored t).Perm xs
  ordered : (stored t).Pairwise fun x y => Earlier (xs.map Prod.fst) x.1 y.1
  leaves_eq : leaves t = (stored t).map Prod.snd

theorem Files.stores (h : Files n d xs t) (hxs : Texts xs) : Stores xs t := by
  induction h with
  | leaf n d a => exact ⟨.refl _, List.pairwise_singleton _ _, rfl⟩
  | @inner n d xs es nonempty keys below ih =>
    have hstores : ∀ e ∈ es, Stores (rests e.1 xs) e.2 := fun e he => ih e he (hxs.rests e.1)
    have hpaths : ∀ path ∈ xs.map Prod.fst, ∀ v ∈ path, v.IsText := by
      intro path hpath
      obtain ⟨x, hx, rfl⟩ := List.mem_map.mp hpath
      exact hxs x hx
    have hstored : stored (.node n d none es) = es.flatMap fun e => under e.1 (stored e.2) := by
      refine (foundBelow_eq es).trans (List.flatMap_congr fun e he => ?_)
      rw [found_eq, (below e he).name_eq]
    refine ⟨?_, ?_, ?_⟩
    · have hgroups : (es.flatMap fun e => under e.1 (rests e.1 xs)).Perm xs := by
        have hheads := groups_perm hxs nonempty
        rwa [← keys, Entries.keys, List.flatMap_map] at hheads
      rw [hstored]
      exact (List.Perm.flatMap_left es fun e he => (hstores e he).perm.map _).trans hgroups
    · rw [hstored, List.pairwise_flatMap]
      constructor
      · intro e he
        have hinner := (hstores e he).ordered
        rw [map_fst_rests] at hinner
        rw [under, List.pairwise_map]
        exact hinner.imp fun hearlier => hearlier.cons hpaths
      · have hheads := pairwise_heads hxs
        rw [← keys, Entries.keys, List.pairwise_map] at hheads
        refine hheads.imp fun {e f} hseen x hx y hy => ?_
        obtain ⟨x, -, rfl⟩ := List.mem_map.mp hx
        obtain ⟨y, -, rfl⟩ := List.mem_map.mp hy
        refine ⟨[], e.1, f.1, x.1, y.1, rfl, rfl, ?_, hseen⟩
        exact fun heq => hseen.ne (by rw [heq])
    · rw [hstored, List.map_flatMap]
      show leavesOf es = _
      rw [leavesOf_eq]
      refine List.flatMap_congr fun e he => ?_
      rw [(hstores e he).leaves_eq, under, List.map_map]
      rfl

/-! ## The tree of a list of cases -/

/-- A tree says just what the cases say. -/
structure Faithful (cases : List Case) (root : Tree Case) : Prop where
  get_iff : ∀ keys node, root.get keys = .ok node ↔ At keys root node
  keyed : ∀ keys node, At keys root node → node.entries.keys.Nodup ∧
    ∀ e ∈ node.entries, e.2.name = e.1 ∧ e.2.depth = node.depth + 1
  depth : ∀ keys node, At keys root node → node.depth = keys.length
  isSome_iff : ∀ keys node, At keys root node →
    (node.leaf.isSome ↔ keys ≠ [] ∧ node.children = [])
  path : ∀ keys node c, At keys root node → node.leaf = some c → c.path = keys
  perm : root.leaves.Perm cases
  ordered : root.leaves.Pairwise fun c d => Earlier (cases.map Case.path) c.path d.path

theorem faithful_of_files {cases : List Case} {root : Tree Case} (hfilable : Filable cases)
    (h : Files n 0 (byPath cases) root) : Faithful cases root := by
  have htexts := hfilable.texts
  obtain ⟨hperm, hordered, hleaves⟩ := h.stores htexts
  have hpaths : (byPath cases).map Prod.fst = cases.map Case.path := by
    rw [byPath, List.map_map]
    rfl
  have hown : ∀ x ∈ stored root, x.1 = x.2.path := by
    intro x hx
    obtain ⟨c, -, rfl⟩ := List.mem_map.mp (hperm.mem_iff.mp hx)
    rfl
  have hroot : root.leaf = none := by
    by_contra hsome
    obtain ⟨c, hc⟩ := Option.ne_none_iff_exists'.mp hsome
    have hmem : (([] : Path), c) ∈ byPath cases := by simp [h.eq_of_leaf hc]
    obtain ⟨c', hc', heq⟩ := List.mem_map.mp hmem
    exact (hfilable c' hc').1 (congrArg Prod.fst heq)
  refine ⟨fun keys node => h.get_eq_ok_iff htexts, ?_, ?_, ?_, ?_, ?_, ?_⟩
  · intro keys node hat
    obtain ⟨m, hnode⟩ := h.at hat
    refine ⟨(hnode.keys_spec (htexts.restsOf keys)).2, fun e he => ?_⟩
    have hchild := hnode.of_child he
    exact ⟨hchild.name_eq, by rw [hchild.depth_eq, hnode.depth_eq]⟩
  · intro keys node hat
    obtain ⟨m, hnode⟩ := h.at hat
    rw [hnode.depth_eq, Int.zero_add]
  · intro keys node hat
    by_cases hkeys : keys = []
    · subst hkeys
      cases hat
      simp [hroot]
    · obtain ⟨m, hnode⟩ := h.at hat
      have hsome := h.restsOf_ne_nil htexts hat fun hnil => absurd hnil hkeys
      rw [hnode.isSome_iff (htexts.restsOf keys) hsome, and_iff_right hkeys, children,
        List.map_eq_nil_iff]
  · intro keys node c hat hc
    obtain ⟨m, hnode⟩ := h.at hat
    have hmem : (([] : Path), c) ∈ restsOf keys (byPath cases) := by simp [hnode.eq_of_leaf hc]
    rw [mem_restsOf_iff htexts, List.append_nil] at hmem
    obtain ⟨c', -, heq⟩ := List.mem_map.mp hmem
    cases heq
    rfl
  · have hcases : (byPath cases).map Prod.snd = cases := by
      rw [byPath, List.map_map]
      exact List.map_id cases
    have hmapped := hperm.map Prod.snd
    rwa [hcases, ← hleaves] at hmapped
  · rw [hleaves, List.pairwise_map, ← hpaths]
    refine hordered.imp_of_mem fun {x y} hx hy hearlier => ?_
    rwa [← hown x hx, ← hown y hy]

/--
The tree of a list of cases with paths of texts. It fails, as for a malformed scenario, just if at
two positions one path begins with the other, in whichever order they come. Otherwise there is a
tree in which each node is found under the keys that lead to it, the last of which is its name, one
level below the node before; the nodes below the root that have no children are those that hold
cases, each under the path of its case; and all cases come out once, in the order in which the names
after their common beginnings were first seen.
-/
theorem ofCases_faithful (defaults : Config) {cases : List Case} (hfilable : Filable cases) :
    ((∃ e, ofCases defaults cases = .error (.specification e)) ↔
      ∃ (i j : Nat) (c d : Case), i ≠ j ∧ cases[i]? = some c ∧ cases[j]? = some d ∧
        c.path <+: d.path) ∧
    ((¬ ∃ e, ofCases defaults cases = .error (.specification e)) →
      ∃ root, ofCases defaults cases = .ok root ∧ Faithful cases root) := by
  rw [← not_prefixFree_iff]
  by_cases hfree : PrefixFree cases
  · obtain ⟨root, hroot, hfiles⟩ := ofCases_of_prefixFree defaults hfilable hfree
    refine ⟨iff_of_false ?_ (not_not.mpr hfree), fun _ =>
      ⟨root, hroot, faithful_of_files hfilable hfiles⟩⟩
    rintro ⟨e, he⟩
    cases hroot.symm.trans he
  · have hfails := ofCases_of_not_prefixFree defaults hfilable hfree
    exact ⟨iff_of_true hfails hfree, fun hno => absurd hfails hno⟩

/-- A case without variables under a path of texts. -/
def plainCase (path : List String) : Case :=
  ⟨path.map .text, [], none⟩

/-- Cases of two scenarios in turns. -/
def interleavedCases : List Case :=
  [plainCase ["t", "v", "0"], plainCase ["u", "v", "1"], plainCase ["t", "v", "1"],
    plainCase ["u", "v", "0"]]

/-- The cases of each scenario come out together, in the order in which they were first seen. -/
theorem ofCases_interleavedCases :
    ∃ root, ofCases {} interleavedCases = .ok root ∧ Faithful interleavedCases root ∧
      root.leaves = [plainCase ["t", "v", "0"], plainCase ["t", "v", "1"],
        plainCase ["u", "v", "1"], plainCase ["u", "v", "0"]] := by
  have hfilable : Filable interleavedCases := by
    intro c hc
    simp only [interleavedCases, List.mem_cons, List.not_mem_nil, or_false] at hc
    rcases hc with rfl | rfl | rfl | rfl <;>
      exact ⟨List.cons_ne_nil _ _, by simp [plainCase, Value.isText_text]⟩
  obtain ⟨root, hroot, hleaves⟩ : ∃ root, ofCases {} interleavedCases = .ok root ∧
      root.leaves = [plainCase ["t", "v", "0"], plainCase ["t", "v", "1"],
        plainCase ["u", "v", "1"], plainCase ["u", "v", "0"]] := ⟨_, rfl, rfl⟩
  obtain ⟨-, hfaithful⟩ := ofCases_faithful {} hfilable
  obtain ⟨root', hroot', hall⟩ := hfaithful (by
    rintro ⟨e, he⟩
    cases hroot.symm.trans he)
  cases hroot.symm.trans hroot'
  exact ⟨root, hroot, hall, hleaves⟩

end Tree

end CaseGrid
