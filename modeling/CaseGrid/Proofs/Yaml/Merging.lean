import CaseGrid.Proofs.Yaml.Numbering
import CaseGrid.Yaml.Merge

/-
  What merging does to the nodes of a document. Only a mapping with a merge key gets other pairs,
  and it stays a mapping; keys for a default value become texts, and no other tag changes. So a
  mapping without merge keys keeps its pairs, whatever the others merge.

  Proved: `Merged.resolve`, from the same for a run of `resolveFrom`, whose induction is on the fuel.
  What it carries is that pairs were taken over only for a mapping that had a merge key at the
  beginning. What can be wrong with a merge key is trouble with the text (`not_breaks_of_resolve`).
-/

namespace CaseGrid.Yaml

/-- A mapping with a merge key. -/
def Nodes.HasMerge (nodes : Nodes) (i : Nat) : Prop :=
  ∃ pairs, (nodes.node i).content = .mapping pairs ∧ ∃ p ∈ pairs, (nodes.node p.1).tag = Tag.merge

/-- What some nodes may have become in the course of merging. -/
structure Merged (origin nodes : Nodes) : Prop where
  size : nodes.size = origin.size
  tag : ∀ i, (nodes.node i).tag = (origin.node i).tag ∨
    (origin.node i).tag = Tag.default ∧ (nodes.node i).tag = Tag.str
  content : ∀ i, ¬ origin.HasMerge i → (nodes.node i).content = (origin.node i).content
  mapping : ∀ i, origin.HasMerge i → ∃ pairs, (nodes.node i).content = .mapping pairs

/-- What a run leaves begins with the first item that ends it. -/
theorem drop_length_takeWhile {α : Type} (p : α → Bool) (l : List α) :
    l.drop (l.takeWhile p).length = l.dropWhile p := by
  conv => lhs; arg 2; rw [← List.takeWhile_append_dropWhile (p := p) (l := l)]
  rw [List.drop_left]

/-- The first item after a run is one that ends it. -/
theorem mem_of_drop_takeWhile {α : Type} {p : α → Bool} {l after : List α} {a : α}
    (h : l.drop (l.takeWhile p).length = a :: after) : a ∈ l ∧ p a = false := by
  rw [drop_length_takeWhile] at h
  refine ⟨(List.dropWhile_suffix p).subset (h ▸ List.mem_cons_self), ?_⟩
  have hhead := List.head?_dropWhile_not p l
  rw [h] at hhead
  simpa using hhead

namespace Merged

variable {origin nodes : Nodes}

theorem refl (origin : Nodes) : Merged origin origin :=
  ⟨rfl, fun _ => .inl rfl, fun _ _ => rfl, fun _ ⟨pairs, hpairs, _⟩ => ⟨pairs, hpairs⟩⟩

theorem tag_eq_iff (h : Merged origin nodes) {i : Nat} {tag : String} (hdefault : tag ≠ Tag.default)
    (hstr : tag ≠ Tag.str) : (nodes.node i).tag = tag ↔ (origin.node i).tag = tag := by
  rcases h.tag i with heq | ⟨horigin, hnow⟩
  · rw [heq]
  · rw [horigin, hnow]
    exact iff_of_false (fun h => hstr h.symm) (fun h => hdefault h.symm)

theorem tag_merge_iff (h : Merged origin nodes) {i : Nat} :
    (nodes.node i).tag = Tag.merge ↔ (origin.node i).tag = Tag.merge :=
  h.tag_eq_iff (by decide) (by decide)

theorem not_hasMerge {i : Nat} (h : ∀ pairs, (origin.node i).content ≠ .mapping pairs) :
    ¬ origin.HasMerge i :=
  fun ⟨pairs, hpairs, _⟩ => h pairs hpairs

theorem content_scalar (h : Merged origin nodes) {i : Nat} {text : Text.Points}
    (hi : (origin.node i).content = .scalar text) : (nodes.node i).content = .scalar text := by
  rw [h.content i (not_hasMerge fun pairs => by rw [hi]; exact nofun), hi]

theorem content_sequence (h : Merged origin nodes) {i : Nat} {items : List Nat}
    (hi : (origin.node i).content = .sequence items) : (nodes.node i).content = .sequence items := by
  rw [h.content i (not_hasMerge fun pairs => by rw [hi]; exact nofun), hi]

/-- A mapping stays one. -/
theorem content_mapping (h : Merged origin nodes) {i : Nat} {pairs : List (Nat × Nat)}
    (hi : (origin.node i).content = .mapping pairs) :
    ∃ pairs', (nodes.node i).content = .mapping pairs' := by
  by_cases hmerge : origin.HasMerge i
  · exact h.mapping i hmerge
  · exact ⟨pairs, by rw [h.content i hmerge, hi]⟩

theorem origin_scalar (h : Merged origin nodes) {i : Nat} {text : Text.Points}
    (hi : (nodes.node i).content = .scalar text) : (origin.node i).content = .scalar text := by
  cases hcontent : (origin.node i).content with
  | scalar text' => rw [← hi, h.content_scalar hcontent]
  | sequence items =>
    rw [h.content_sequence hcontent] at hi
    cases hi
  | mapping pairs =>
    obtain ⟨pairs', hpairs'⟩ := h.content_mapping hcontent
    rw [hpairs'] at hi
    cases hi

theorem origin_sequence (h : Merged origin nodes) {i : Nat} {items : List Nat}
    (hi : (nodes.node i).content = .sequence items) : (origin.node i).content = .sequence items := by
  cases hcontent : (origin.node i).content with
  | scalar text =>
    rw [h.content_scalar hcontent] at hi
    cases hi
  | sequence items' => rw [← hi, h.content_sequence hcontent]
  | mapping pairs =>
    obtain ⟨pairs', hpairs'⟩ := h.content_mapping hcontent
    rw [hpairs'] at hi
    cases hi

/-- A merge key that is found among the pairs of a mapping was there from the beginning, there or
in another place. -/
theorem hasMerge (h : Merged origin nodes) {i : Nat} {p : Nat × Nat}
    (hp : p ∈ Merge.pairsOf nodes i) (hmerge : Merge.isMerge nodes p = true) :
    origin.HasMerge i := by
  by_contra hnone
  have hcontent := h.content i hnone
  unfold Merge.pairsOf at hp
  rw [hcontent] at hp
  split at hp
  · rename_i pairs hpairs
    have htag : (nodes.node p.1).tag = Tag.merge := by simpa [Merge.isMerge] using hmerge
    exact hnone ⟨pairs, hpairs, p, hp, h.tag_merge_iff.mp htag⟩
  · cases hp

theorem put (h : Merged origin nodes) {i : Nat} (hi : origin.HasMerge i) (pairs : List (Nat × Nat)) :
    Merged origin (nodes.put i (.mapping pairs)) := by
  refine ⟨by rw [Nodes.size_put, h.size], fun j => ?_, fun j hj => ?_, fun j hj => ?_⟩
  · rw [Nodes.node_put]
    split
    · exact h.tag j
    · exact h.tag j
  · rw [Nodes.node_put]
    split
    · rename_i hji
      exact absurd (hji.1 ▸ hi) hj
    · exact h.content j hj
  · rw [Nodes.node_put]
    split
    · exact ⟨pairs, rfl⟩
    · exact h.mapping j hj

/-- A key for a default value becomes a text. -/
theorem retag (h : Merged origin nodes) {i : Nat} (hi : (nodes.node i).tag = Tag.default) :
    Merged origin (nodes.retag i Tag.str) := by
  have hnode (j : Nat) : (nodes.retag i Tag.str).node j =
      if j = i ∧ j < nodes.size then { nodes.node j with tag := Tag.str } else nodes.node j :=
    Nodes.node_retag
  have hcontent (j : Nat) : ((nodes.retag i Tag.str).node j).content = (nodes.node j).content := by
    rw [hnode]
    split <;> rfl
  have hsize : (nodes.retag i Tag.str).size = nodes.size := Array.size_modify
  refine ⟨hsize.trans h.size, fun j => ?_, fun j hj => ?_, fun j hj => ?_⟩
  · rw [hnode]
    split
    · rename_i hji
      obtain ⟨rfl, -⟩ := hji
      refine .inr ⟨?_, rfl⟩
      rcases h.tag j with heq | ⟨horigin, -⟩
      · rw [← heq, hi]
      · exact horigin
    · exact h.tag j
  · rw [hcontent, h.content j hj]
  · rw [hcontent]
    exact h.mapping j hj

theorem retagDefaults (h : Merged origin nodes) (pairs : List (Nat × Nat)) :
    Merged origin (Merge.retagDefaults nodes pairs) := by
  unfold Merge.retagDefaults
  induction pairs generalizing nodes with
  | nil => exact h
  | cons p pairs ih =>
    rw [List.foldl_cons]
    refine ih ?_
    split
    · rename_i hp
      exact h.retag (by simpa using hp)
    · exact h

theorem gather {resolve : Nat → Nodes → Except Trouble Nodes}
    (hresolve : ∀ item nodes nodes', Merged origin nodes → resolve item nodes = .ok nodes' →
      Merged origin nodes') {i : Nat} {items : List Nat} {groups groups' : List (List (Nat × Nat))}
    {nodes' : Nodes} (h : Merged origin nodes)
    (hrun : Merge.gather resolve i items nodes groups = .ok (nodes', groups')) :
    Merged origin nodes' := by
  induction items generalizing nodes groups with
  | nil =>
    cases hrun
    exact h
  | cons item items ih =>
    rw [Merge.gather] at hrun
    split at hrun
    · obtain ⟨between, hbetween, hrun⟩ := bind_eq_ok_iff.mp hrun
      exact ih (hresolve item nodes between h hbetween) hrun
    · cases hrun

/-- Where pairs were taken over for a mapping, it had a merge key. -/
theorem resolveFrom {fuel i position : Nat} {taken : List (Nat × Nat)} {nodes' : Nodes}
    (h : Merged origin nodes) (htaken : taken = [] ∨ origin.HasMerge i)
    (hrun : Merge.resolveFrom fuel i position taken nodes = .ok nodes') : Merged origin nodes' := by
  induction fuel generalizing i position taken nodes nodes' with
  | zero =>
    cases hrun
    exact h
  | succ fuel ih =>
    rw [Merge.resolveFrom] at hrun
    dsimp only at hrun
    generalize hpairs : Merge.pairsOf nodes i = pairs at hrun
    have hrun' := h.retagDefaults ((pairs.drop position).takeWhile fun p => !Merge.isMerge nodes p)
    generalize Merge.retagDefaults nodes
      ((pairs.drop position).takeWhile fun p => !Merge.isMerge nodes p) = retagged at hrun hrun'
    split at hrun
    -- No merge key is left: the mapping is written only if pairs were taken over, that is, if it
    -- had one.
    · cases hrun
      split
      · exact hrun'
      · rename_i hne
        rcases htaken with rfl | hmerge
        · exact absurd rfl hne
        · exact hrun'.put hmerge _
    · rename_i k v after hafter
      obtain ⟨hmem, hkey⟩ := mem_of_drop_takeWhile hafter
      have hmerge : origin.HasMerge i :=
        h.hasMerge (hpairs ▸ List.mem_of_mem_drop hmem) (by simpa using hkey)
      have hput := hrun'.put hmerge
        (pairs.take (position + ((pairs.drop position).takeWhile fun p =>
          !Merge.isMerge nodes p).length) ++ after)
      split at hrun
      · obtain ⟨between, hbetween, hrun⟩ := bind_eq_ok_iff.mp hrun
        exact ih (ih hput (.inl rfl) hbetween) (.inr hmerge) hrun
      · obtain ⟨⟨between, groups⟩, hbetween, hrun⟩ := bind_eq_ok_iff.mp hrun
        exact ih (hput.gather (fun _ _ _ hn hr => ih hn (.inl rfl) hr) hbetween) (.inr hmerge) hrun
      · cases hrun

/-- Merging a mapping, and so the mappings that it names. -/
theorem resolve {i : Nat} {nodes' : Nodes} (h : Merged origin nodes)
    (hrun : Merge.resolve nodes i = .ok nodes') : Merged origin nodes' :=
  h.resolveFrom (.inl rfl) hrun

end Merged

/-! ## Trouble in the course of merging -/

/-- Trouble that is a failure of another kind, and not reported as trouble with the text. -/
def Trouble.Breaks (e : Trouble) : Prop :=
  ∃ why message, e = .failed why message

theorem Trouble.not_breaks_found {stage : Stage} {context : Option String} {start : Option Mark}
    {problem : String} {place : Mark} :
    ¬ (Trouble.found stage context start problem place).Breaks := by
  rintro ⟨why, message, h⟩
  cases h

theorem Trouble.not_breaks_character {position : Nat} {c : Char} :
    ¬ (Trouble.character position c).Breaks := by
  rintro ⟨why, message, h⟩
  cases h

instance (e : Trouble) : Decidable e.Breaks :=
  match e with
  | .failed why message => .isTrue ⟨why, message, rfl⟩
  | .found _ _ _ _ _ => .isFalse Trouble.not_breaks_found
  | .character _ _ => .isFalse Trouble.not_breaks_character

namespace Merge

/-- What is wrong with some merge key: its value, or an item of that, is of another kind. -/
def Misplaced (e : Trouble) : Prop :=
  ∃ nodes i v expected, e = wrongKind nodes i v expected

theorem misplaced_of_gather {resolve : Nat → Nodes → Except Trouble Nodes}
    (hresolve : ∀ item nodes e, resolve item nodes = .error e → Misplaced e) {i : Nat}
    {items : List Nat} {nodes : Nodes} {groups : List (List (Nat × Nat))} {e : Trouble}
    (h : gather resolve i items nodes groups = .error e) : Misplaced e := by
  induction items generalizing nodes groups with
  | nil => cases h
  | cons item items ih =>
    rw [gather] at h
    split at h
    · rcases bind_eq_error_iff.mp h with h | ⟨between, -, h⟩
      · exact hresolve item nodes e h
      · exact ih h
    · cases h
      exact ⟨nodes, i, item, _, rfl⟩

theorem misplaced_of_resolveFrom {fuel i position : Nat} {taken : List (Nat × Nat)}
    {nodes : Nodes} {e : Trouble} (h : resolveFrom fuel i position taken nodes = .error e) :
    Misplaced e := by
  induction fuel generalizing i position taken nodes e with
  | zero => cases h
  | succ fuel ih =>
    rw [resolveFrom] at h
    dsimp only at h
    split at h
    · cases h
    · split at h
      · rcases bind_eq_error_iff.mp h with h | ⟨between, -, h⟩
        · exact ih h
        · exact ih h
      · rcases bind_eq_error_iff.mp h with h | ⟨⟨between, groups⟩, -, h⟩
        · exact misplaced_of_gather (fun _ _ _ h => ih h) h
        · exact ih h
      · cases h
        exact ⟨_, _, _, _, rfl⟩

/-- What is wrong with a merge key is reported. -/
theorem not_breaks_of_resolve {nodes : Nodes} {i : Nat} {e : Trouble}
    (h : resolve nodes i = .error e) : ¬ e.Breaks := by
  obtain ⟨_, _, _, _, rfl⟩ := misplaced_of_resolveFrom h
  exact Trouble.not_breaks_found

end Merge

end CaseGrid.Yaml
