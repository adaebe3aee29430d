import CaseGrid.Proofs.Yaml.Operations
import CaseGrid.Proofs.Yaml.Origin

/-
  What the keys written in a mapping stand for, by the nodes of the document alone. A text stands
  for what its tag reads in it; a mapping with the tag of a scalar stands for one of its default
  values, which of them depends on what was merged before. A mapping repeats a key if two of its
  written keys stand for scalars of one kind that are alike.

  Proved: a tag of a scalar reads the text of its node and goes by nothing else, never with the
  trouble of a repeated key (`scalar?_eq_bind`), and no other node stands for a scalar
  (`Nodes.Yields.tag`).
-/

namespace CaseGrid.Yaml

open CaseGrid.Text (Points)

/-! ## Scalars of nodes -/

/-- The node, its tag that of a text if it is the one of a key for a default value. -/
def Node.asText (n : Node) : Node :=
  if n.tag = Tag.default then { n with tag := Tag.str } else n

/-- The scalar that the tag of a node reads in a text, if it is one of a scalar. -/
def Node.reading (i : Nat) (n : Node) (text : Points) : Except Trouble (Option Scalar) :=
  (Builder.scalar? i n (pure text)).run' ⟨#[], #[], []⟩

/-- A reading goes by the tag of the node, where it begins, and whether it is a scalar. -/
theorem Node.reading_congr {n n' : Node} (htag : n.tag = n'.tag) (hstart : n.start = n'.start)
    (hcontent : n.content = n'.content ∨
      ∃ ps ps', n.content = .mapping ps ∧ n'.content = .mapping ps') (i : Nat) (text : Points) :
    n.reading i text = n'.reading i text := by
  obtain ⟨tag, start, content⟩ := n
  obtain ⟨tag', start', content'⟩ := n'
  dsimp only at htag hstart hcontent
  subst htag hstart
  rcases hcontent with rfl | ⟨ps, ps', rfl, rfl⟩
  · rfl
  · rfl

namespace Nodes

/-- The text of a node: of a scalar its own, of a mapping that of one of its default values. -/
inductive StandsFor (nodes : Nodes) : Nat → Points → Prop
  | text {i : Nat} {text : Points} (h : (nodes.node i).content = .scalar text) :
    StandsFor nodes i text
  | default {i : Nat} {p : Nat × Nat} {text : Points} (hp : p ∈ Merge.pairsOf nodes i)
    (hkey : (nodes.node p.1).tag = Tag.default) (h : StandsFor nodes p.2 text) :
    StandsFor nodes i text

/-- A node may be built into a scalar. -/
def Yields (nodes : Nodes) (i : Nat) (a : Scalar) : Prop :=
  ∃ text, nodes.StandsFor i text ∧ (nodes.node i).asText.reading i text = .ok (some a)

/-- Two of the keys written in some pairs stand for scalars of one kind that are alike. -/
def RepeatedIn (stands : Nat → Scalar → Prop) (ps : List (Nat × Nat)) : Prop :=
  ∃ p q a b, [p, q].Sublist ps ∧ stands p.1 a ∧ stands q.1 b ∧ Builder.repeats a b = true

/-- Two of the keys written in a mapping stand for scalars of one kind that are alike; merge keys do
not count. -/
def Repeats (nodes : Nodes) (stands : Nat → Scalar → Prop) (i : Nat) : Prop :=
  RepeatedIn stands (nodes.ownPairs i)

end Nodes

/-! ## The trouble of a repeated key -/

namespace Trouble

/-- The trouble of a key that repeats another one, in a mapping that begins at a place. -/
def repeatedKey (start : Mark) (shown : String) (place : Mark) : Trouble :=
  .during .data "while constructing a mapping" start ("found duplicate key " ++ shown) place

/-- Trouble other than that of a repeated key. -/
def Other (e : Trouble) : Prop :=
  ∀ start shown place, e ≠ .repeatedKey start shown place

theorem other_failed (why : Breakdown) (message : String) : (Trouble.failed why message).Other := by
  intro start shown place h
  cases h

theorem other_bare (stage : Stage) (problem : String) (place : Mark) :
    (Trouble.bare stage problem place).Other := by
  intro start shown place' h
  cases h

/-- A repeated key is told by the first letters of the problem. -/
theorem other_of_take {stage : Stage} {context problem : String} {start place : Mark} (n : Nat)
    (hn : n ≤ 20) (h : problem.toList.take n ≠ "found duplicate key ".toList.take n) :
    (Trouble.during stage context start problem place).Other := by
  intro start' shown place' heq
  have hproblem : problem = "found duplicate key " ++ shown := by
    cases heq
    rfl
  refine h ?_
  rw [hproblem, String.toList_append, List.take_append_of_le_length]
  exact hn

theorem other_of_context {stage : Stage} {context problem : String} {start place : Mark}
    (h : context ≠ "while constructing a mapping") :
    (Trouble.during stage context start problem place).Other := by
  intro start' shown place' heq
  cases heq
  exact h rfl

end Trouble

namespace Merge

theorem other_wrongKind (nodes : Nodes) (i v : Nat) (expected : String) :
    (wrongKind nodes i v expected).Other := by
  refine Trouble.other_of_take 1 (by decide) ?_
  rw [String.append_assoc, String.append_assoc, String.toList_append, List.take_append_of_le_length]
  · decide
  · decide

theorem other_of_resolve {nodes : Nodes} {i : Nat} {e : Trouble} (h : resolve nodes i = .error e) :
    e.Other := by
  obtain ⟨_, _, _, _, rfl⟩ := misplaced_of_resolveFrom h
  exact other_wrongKind _ _ _ _

end Merge

/-! ## Reading scalars -/

theorem Trouble.Breaks.other {e : Trouble} (h : e.Breaks) : e.Other := by
  obtain ⟨why, message, rfl⟩ := h
  exact other_failed why message

namespace Tagged

theorem breaks_of_badValue {α : Type} {message : String} {e : Trouble}
    (h : (badValue message : Except Trouble α) = .error e) : e.Breaks := by
  cases h
  exact ⟨_, _, rfl⟩

theorem breaks_of_signed {text : Points} {e : Trouble} (h : signed text = .error e) : e.Breaks := by
  cases text with
  | nil =>
    cases h
    exact ⟨_, _, rfl⟩
  | cons n ns => cases h

theorem breaks_of_integer {base : Nat} {text : Points} {e : Trouble}
    (h : integer base text = .error e) : e.Breaks := by
  unfold integer at h
  dsimp only at h
  split at h
  · exact breaks_of_badValue h
  · split at h
    · cases h
    · exact breaks_of_badValue h

theorem breaks_of_decimal {mark : Nat} {text : Points} {e : Trouble}
    (h : decimal mark text = .error e) : e.Breaks := by
  unfold decimal at h
  split at h
  · cases h
  · exact breaks_of_badValue h

theorem breaks_of_sixtieths {k : Nat} {sum : Number.Binary64} {ds : List Number.Binary64}
    {e : Trouble} (h : sixtieths k sum ds = .error e) : e.Breaks := by
  induction ds generalizing k sum with
  | nil => cases h
  | cons d ds ih =>
    rw [sixtieths] at h
    rcases bind_eq_error_iff.mp h with h | ⟨unit, -, h⟩
    · unfold sixtyPower at h
      split at h
      · cases h
        exact ⟨_, _, rfl⟩
      · cases h
    · exact ih h

theorem breaks_of_readBool {text : Points} {e : Trouble} (h : readBool text = .error e) :
    e.Breaks := by
  unfold readBool at h
  dsimp only at h
  split at h
  · cases h
  · split at h
    · cases h
    · cases h
      exact ⟨_, _, rfl⟩

/-- What follows a reading and does not fail leaves its trouble. -/
theorem breaks_of_bind {α β : Type} {x : Except Trouble α} {f : α → β} {e : Trouble}
    (h : (x >>= fun a => (pure (f a) : Except Trouble β)) = .error e)
    (hx : x = .error e → e.Breaks) : e.Breaks := by
  rcases bind_eq_error_iff.mp h with h | ⟨_, _, h⟩
  · exact hx h
  · cases h

theorem breaks_of_readInteger {text : Points} {e : Trouble} (h : readInteger text = .error e) :
    e.Breaks := by
  unfold readInteger at h
  rcases bind_eq_error_iff.mp h with h | ⟨⟨negative, body⟩, -, h⟩
  · exact breaks_of_signed h
  dsimp only at h
  split at h
  · exact breaks_of_bind h fun h => by cases h; exact ⟨_, _, rfl⟩
  · cases h
  · exact breaks_of_bind h breaks_of_integer
  · exact breaks_of_bind h breaks_of_integer
  · exact breaks_of_bind h breaks_of_integer
  · split at h
    · rcases bind_eq_error_iff.mp h with h | ⟨parts, -, h⟩
      · obtain ⟨part, -, hpart⟩ := exists_of_mapM_eq_error h
        exact breaks_of_integer hpart
      · cases h
    · exact breaks_of_bind h breaks_of_integer

theorem breaks_of_readDouble {mark : Nat} {text : Points} {e : Trouble}
    (h : readDouble mark text = .error e) : e.Breaks := by
  unfold readDouble at h
  rcases bind_eq_error_iff.mp h with h | ⟨⟨negative, body⟩, -, h⟩
  · exact breaks_of_signed h
  dsimp only at h
  split at h
  · cases h
  · split at h
    · cases h
    · split at h
      · rcases bind_eq_error_iff.mp h with h | ⟨parts, -, h⟩
        · obtain ⟨part, -, hpart⟩ := exists_of_mapM_eq_error h
          exact breaks_of_decimal hpart
        · rcases bind_eq_error_iff.mp h with h | ⟨sum, -, h⟩
          · exact breaks_of_sixtieths h
          · cases h
      · rcases bind_eq_error_iff.mp h with h | ⟨x, -, h⟩
        · exact breaks_of_decimal h
        · cases h

theorem breaks_of_readTimestamp {text : Points} {e : Trouble} (h : readTimestamp text = .error e) :
    e.Breaks := by
  unfold readTimestamp at h
  dsimp only at h
  split at h
  · cases h
    exact ⟨_, _, rfl⟩
  · obtain ⟨why, -, rfl⟩ := mapError_eq_error_iff.mp h
    exact ⟨_, _, rfl⟩
  · obtain ⟨why, -, rfl⟩ := mapError_eq_error_iff.mp h
    exact ⟨_, _, rfl⟩

theorem other_of_readBinary {place : Mark} {text : Points} {e : Trouble}
    (h : readBinary place text = .error e) : e.Other := by
  unfold readBinary at h
  split at h
  · cases h
    exact Trouble.other_bare _ _ _
  · obtain ⟨why, -, rfl⟩ := mapError_eq_error_iff.mp h
    exact Trouble.other_bare _ _ _

end Tagged

namespace Builder

/-- An operation that goes by no state, leaves it, and finds no repeated key. -/
structure Plainly {α : Type} (x : Builder α) : Prop where
  steady : ∀ s, x = StateT.lift (x.run' s)
  other : ∀ s e, x.run' s = .error e → e.Other

theorem plainly_pure {α : Type} (a : α) : Plainly (pure a : Builder α) :=
  ⟨fun _ => rfl, fun _ _ h => by cases h⟩

theorem plainly_fail {α : Type} {e : Trouble} (he : e.Other) : Plainly (fail e : Builder α) := by
  refine ⟨fun _ => rfl, fun _ _ h => ?_⟩
  cases h
  exact he

theorem plainly_read {α β : Type} {r : Except Trouble α} {wrap : α → β}
    (hr : ∀ e, r = .error e → e.Other) :
    Plainly (StateT.lift r >>= fun v => (pure (wrap v) : Builder β)) := by
  refine ⟨fun s => ?_, fun s e h => ?_⟩
  · cases r <;> rfl
  · cases r with
    | ok v => cases h
    | error e' =>
      cases h
      exact hr e rfl

section Reading

variable {i : Nat} {n : Node}

theorem scalar?_of_not_mem (h : n.tag ∉ Tag.scalars) (x : Builder Points) :
    scalar? i n x = pure none := by
  simp only [Tag.scalars, List.mem_cons, List.not_mem_nil, or_false, not_or] at h
  obtain ⟨hstr, hnull, hbool, hint, hfloat, htime, hbinary⟩ := h
  rw [scalar?, if_neg hstr, if_neg hnull, if_neg hbool, if_neg hint, if_neg hfloat, if_neg htime,
    if_neg hbinary]

/-- A tag of a scalar reads the text once it is there. -/
theorem scalar?_eq_bind (h : n.tag ∈ Tag.scalars) :
    (∀ x, scalar? i n x = x >>= fun text => StateT.lift (n.reading i text)) ∧
      ∀ text e, n.reading i text = .error e → e.Other := by
  have hof {body : Points → Builder (Option Scalar)} (heq : ∀ y, scalar? i n y = y >>= body)
      (hbody : ∀ text, Plainly (body text)) :
      (∀ x, scalar? i n x = x >>= fun text => StateT.lift (n.reading i text)) ∧
        ∀ text e, n.reading i text = .error e → e.Other := by
    have hreading (text : Points) : n.reading i text = (body text).run' ⟨#[], #[], []⟩ := by
      rw [Node.reading, heq]
      rfl
    refine ⟨fun x => ?_, fun text e he => (hbody text).other _ e (hreading text ▸ he)⟩
    rw [heq x]
    congr 1
    funext text
    rw [hreading]
    exact (hbody text).steady _
  simp only [Tag.scalars, List.mem_cons, List.not_mem_nil, or_false] at h
  -- One case for each tag, in the order in which they are asked for.
  rcases h with h | h | h | h | h | h | h
  · exact hof (fun y => by rw [scalar?, if_pos h]) fun _ => plainly_pure _
  · exact hof (fun y => by rw [scalar?, if_neg (h ▸ by decide), if_pos h]) fun _ => plainly_pure _
  · exact hof (fun y => by rw [scalar?, if_neg (h ▸ by decide), if_neg (h ▸ by decide), if_pos h])
      fun _ => plainly_read fun _ he => (Tagged.breaks_of_readBool he).other
  · exact hof (fun y => by
      rw [scalar?, if_neg (h ▸ by decide), if_neg (h ▸ by decide), if_neg (h ▸ by decide),
        if_pos h])
      fun _ => plainly_read fun _ he => (Tagged.breaks_of_readInteger he).other
  · exact hof (fun y => by
      rw [scalar?, if_neg (h ▸ by decide), if_neg (h ▸ by decide), if_neg (h ▸ by decide),
        if_neg (h ▸ by decide), if_pos h])
      fun _ => plainly_read fun _ he => (Tagged.breaks_of_readDouble he).other
  · exact hof (fun y => by
      rw [scalar?, if_neg (h ▸ by decide), if_neg (h ▸ by decide), if_neg (h ▸ by decide),
        if_neg (h ▸ by decide), if_neg (h ▸ by decide), if_pos h])
      fun _ => by
        split
        · exact plainly_read fun _ he => (Tagged.breaks_of_readTimestamp he).other
        · exact plainly_fail (Trouble.other_failed _ _)
  · exact hof (fun y => by
      rw [scalar?, if_neg (h ▸ by decide), if_neg (h ▸ by decide), if_neg (h ▸ by decide),
        if_neg (h ▸ by decide), if_neg (h ▸ by decide), if_neg (h ▸ by decide), if_pos h])
      fun _ => plainly_read fun _ he => Tagged.other_of_readBinary he

end Reading

end Builder

/-- Only a node with the tag of a scalar, or with that of a key for a default value, yields one. -/
theorem Nodes.Yields.tag {nodes : Nodes} {i : Nat} {a : Scalar} (h : nodes.Yields i a) :
    (nodes.node i).tag = Tag.default ∨ (nodes.node i).tag ∈ Tag.scalars := by
  obtain ⟨text, -, hreading⟩ := h
  by_contra hnot
  have htext : (nodes.node i).asText = nodes.node i := if_neg fun hdefault => hnot (.inl hdefault)
  rw [htext, Node.reading, Builder.scalar?_of_not_mem fun hscalar => hnot (.inr hscalar)]
    at hreading
  cases hreading

end CaseGrid.Yaml
