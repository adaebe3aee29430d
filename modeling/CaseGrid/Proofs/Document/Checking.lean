import CaseGrid.Proofs.Document.Reading

/-
  Checking data against a schema. A check looks at the shape of the data; only to tell of an error
  has it to show a piece or a key, which fails for numbers that are too long. So does reading data
  that keeps the schema, which shows its names.

  Proved: a fault of checking or reading is one of showing (`unshown_of_check`,
  `unshown_of_ofData`), by induction on the schema.
-/

namespace CaseGrid

/-! ## Faults of showing -/

/-- The faults of showing something in some data: a piece, a scalar or a key. -/
inductive Source.Unshown {α : Type} (source : Source α) (e : Fault) : Prop where
  | piece {a : α} (h : source.literal a = .error e)
  | scalar {a : α} {s : Scalar} (hs : source.shape a = .scalar s)
    (h : (Value.scalar s).named = .error e)
  | key {a : α} {entries : List (Value × α)} {x : Value × α}
    (ha : source.shape a = .map entries) (hx : x ∈ entries)
    (h : x.1.written = .error e ∨ x.1.named = .error e)

namespace Schema

variable {α : Type} {source : Source α} {e : Fault}

theorem mem_insertBy {key : α → Text.Points} {a b : α} {l : List α} :
    b ∈ insertBy key a l ↔ b = a ∨ b ∈ l := by
  induction l with
  | nil => simp [insertBy]
  | cons c l ih =>
    rw [insertBy]
    split
    · simp
    · simp only [List.mem_cons, ih]
      tauto

theorem mem_byLabel {keys : List Value} {k : Value} : k ∈ byLabel keys ↔ k ∈ keys := by
  have hfold (sorted : List Value) :
      k ∈ keys.foldl (fun sorted k => insertBy Value.labelPoints k sorted) sorted ↔
        k ∈ sorted ∨ k ∈ keys := by
    induction keys generalizing sorted with
    | nil => simp
    | cons x keys ih =>
      rw [List.foldl_cons, ih, mem_insertBy, List.mem_cons]
      tauto
  rw [byLabel, hfold]
  simp

theorem unshown_of_extraMessage {a : α} {entries : List (Value × α)} {keys : List String}
    (ha : source.shape a = .map entries) (h : extraMessage (extraKeys entries keys) = .error e) :
    source.Unshown e := by
  rw [extraMessage] at h
  rcases bind_eq_error_iff.mp h with h | ⟨_, _, h⟩
  · obtain ⟨k, hk, hwritten⟩ := exists_of_mapM_eq_error h
    have hmem := (List.mem_filter.mp (mem_byLabel.mp hk)).1
    obtain ⟨x, hx, rfl⟩ := List.mem_map.mp hmem
    exact .key ha hx (.inl hwritten)
  · cases h

/-- Errors here and errors of the rest, one after the other. -/
theorem error_of_append_error {x y : Except Fault (List SchemaError)}
    {f : List SchemaError → List SchemaError}
    (h : (x >>= fun here => y >>= fun rest => pure (f here ++ rest)) = .error e) :
    x = .error e ∨ y = .error e := by
  rcases bind_eq_error_iff.mp h with h | ⟨_, _, h⟩
  · exact .inl h
  · rcases bind_eq_error_iff.mp h with h | ⟨_, _, h⟩
    · exact .inr h
    · cases h

theorem unshown_of_itemErrors {check : α → Except Fault (List SchemaError)}
    (hcheck : ∀ a, check a = .error e → source.Unshown e) {i : Nat} {items : List α}
    (h : itemErrors check i items = .error e) : source.Unshown e := by
  induction items generalizing i with
  | nil => cases h
  | cons a items ih =>
    rw [itemErrors] at h
    rcases error_of_append_error h with h | h
    · exact hcheck a h
    · exact ih h

/-- The message of a demand that is not met shows the piece. -/
theorem unshown_of_literal {β : Type} {a : α} {f : String → β}
    (h : (source.literal a >>= fun shown => pure (f shown)) = .error e) : source.Unshown e := by
  rcases bind_eq_error_iff.mp h with h | ⟨_, _, h⟩
  · exact .piece h
  · cases h

mutual

/-- A check fails on what it has to show only. -/
theorem unshown_of_errors {siblings : Option (List SchemaType)} :
    (s : Schema) → (a : α) → errors source siblings s a = .error e → source.Unshown e
  | .all demands, a, h => unshown_of_allErrors demands a h
  | .type types, a, h => by
    rw [errors] at h
    split at h
    · cases h
    · exact unshown_of_literal h
  | .required keys, a, h => by
    rw [errors] at h
    split at h <;> cases h
  | .closed keys, a, h => by
    rw [errors] at h
    split at h
    · rename_i entries hentries
      dsimp only at h
      split at h
      · cases h
      · rcases bind_eq_error_iff.mp h with h | ⟨_, _, h⟩
        · exact unshown_of_extraMessage hentries h
        · cases h
    · cases h
  | .properties fields, a, h => by
    rw [errors] at h
    split at h
    · exact unshown_of_fieldErrors fields h
    · cases h
  | .items demand, a, h => by
    rw [errors] at h
    split at h
    · exact unshown_of_itemErrors (fun a => unshown_of_errors demand a) h
    · cases h
  | .nonEmpty t, a, h => by
    rw [errors] at h
    split at h
    · exact unshown_of_literal h
    · cases h
  | .choice exclusive branches, a, h => by
    rw [errors] at h
    rcases bind_eq_error_iff.mp h with h | ⟨⟨passes, found⟩, _, h⟩
    · exact unshown_of_branchErrors branches a h
    · cases passes with
      | true => cases h
      | false => exact unshown_of_literal h
termination_by structural s => s

theorem unshown_of_allErrors {siblings : Option (List SchemaType)} :
    (ss : List Schema) → (a : α) → allErrors source siblings ss a = .error e → source.Unshown e
  | [], _, h => by cases h
  | s :: rest, a, h => by
    rw [allErrors] at h
    rcases error_of_append_error h with h | h
    · exact unshown_of_errors s a h
    · exact unshown_of_allErrors rest a h
termination_by structural ss => ss

theorem unshown_of_fieldErrors {entries : List (Value × α)} :
    (fields : List (String × Schema)) → fieldErrors source entries fields = .error e →
      source.Unshown e
  | [], h => by cases h
  | (name, s) :: rest, h => by
    rw [fieldErrors] at h
    dsimp only at h
    split at h
    · rcases error_of_append_error h with h | h
      · exact unshown_of_errors s _ (map_eq_error_iff.mp h)
      · exact unshown_of_fieldErrors rest h
    · rcases error_of_append_error h with h | h
      · cases h
      · exact unshown_of_fieldErrors rest h
termination_by structural fields => fields

theorem unshown_of_branchErrors {exclusive : Bool} :
    (branches : List Schema) → (a : α) →
      branchErrors source exclusive branches a = .error e → source.Unshown e
  | [], _, h => by cases h
  | s :: rest, a, h => by
    rw [branchErrors] at h
    rcases bind_eq_error_iff.mp h with h | ⟨here, _, h⟩
    · exact unshown_of_errors s a h
    · dsimp only at h
      split at h
      · cases h
      · rcases bind_eq_error_iff.mp h with h | ⟨_, _, h⟩
        · exact unshown_of_branchErrors rest a h
        · cases h
termination_by structural branches => branches

end

theorem unshown_of_check {schema : Schema} {a : α} (h : schema.check source a = .error e) :
    source.Unshown e := by
  rw [check] at h
  rcases bind_eq_error_iff.mp h with h | ⟨errors, _, h⟩
  · exact unshown_of_errors schema a h
  · cases errors <;> cases h

end Schema

namespace Document

variable {α : Type} {source : Source α} {a : α} {e : Fault}

theorem unshown_of_label (h : source.label a = .error e) : source.Unshown e := by
  unfold Source.label at h
  split at h
  · rename_i s hs
    exact .scalar hs h
  · exact .piece (map_eq_error_iff.mp h)

theorem unshown_of_labelAt? {key : String} (h : labelAt? source a key = .error e) :
    source.Unshown e := by
  unfold labelAt? at h
  split at h
  · exact unshown_of_label (map_eq_error_iff.mp h)
  · cases h

theorem unshown_of_choiceOf (h : choiceOf source a = .error e) : source.Unshown e := by
  unfold choiceOf at h
  split at h
  · exact unshown_of_labelAt? (map_eq_error_iff.mp (map_eq_error_iff.mp h))
  · exact unshown_of_label (map_eq_error_iff.mp h)

theorem unshown_of_choicesOf (h : choicesOf source a = .error e) : source.Unshown e := by
  unfold choicesOf at h
  split at h
  · rename_i entries hentries
    obtain ⟨x, hx, hname⟩ := exists_of_mapM_eq_error h
    exact .key hentries hx (.inr (map_eq_error_iff.mp hname))
  · obtain ⟨part, _, hpart⟩ := exists_of_mapM_eq_error h
    exact unshown_of_choiceOf hpart
  · cases h

theorem unshown_of_axisOf (h : axisOf source a = .error e) : source.Unshown e := by
  rcases bind_eq_error_iff.mp h with h | ⟨_, _, h⟩
  · exact unshown_of_labelAt? (map_eq_error_iff.mp h)
  · rcases bind_eq_error_iff.mp h with h | ⟨_, _, h⟩
    · unfold valuesOf at h
      split at h
      · exact unshown_of_choicesOf h
      · cases h
    · cases h

/-- Reading a document fails on names that cannot be shown only. -/
theorem unshown_of_ofData (h : ofData source a = .error e) : source.Unshown e := by
  rcases bind_eq_error_iff.mp h with h | ⟨_, _, h⟩
  · exact unshown_of_labelAt? (map_eq_error_iff.mp h)
  · rcases bind_eq_error_iff.mp h with h | ⟨_, _, h⟩
    · unfold axesOf at h
      split at h
      · obtain ⟨part, _, hpart⟩ := exists_of_mapM_eq_error h
        exact unshown_of_axisOf hpart
      · cases h
    · rcases bind_eq_error_iff.mp h with h | ⟨_, _, h⟩
      · exact unshown_of_labelAt? h
      · cases h

end Document

end CaseGrid
