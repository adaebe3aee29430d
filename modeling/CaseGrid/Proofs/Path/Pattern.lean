import CaseGrid.Proofs.Text.Pieces
import CaseGrid.Proofs.Value.Entries
import CaseGrid.Selection

/-
  Written paths as patterns. A path of texts is written by joining them, and a pattern is read by
  cutting it, so that a pattern addresses the paths that begin with its pieces. The separator a
  path was written with can be told from what was written and the segments (`separator_inj`): cut
  at any other one, the name of a path never gives all of its segments.
-/

namespace CaseGrid

open CaseGrid.Text (Points EndsClear glue pieces glue_cons glue_pieces piecesFrom_ne_nil
  pieces_glue_iff endsClear_pair_iff)

namespace Text

/-! ## Pieces of a text -/

theorem glue_ofString (separator : String) (rs : List String) :
    glue (Points.ofString separator) (rs.map Points.ofString) =
      Points.ofString (join separator rs) := by
  rw [join, Points.ofString, Points.ofString, String.toList_ofList]
  induction rs with
  | nil => rfl
  | cons r rs ih =>
    by_cases hrs : rs = []
    · subst hrs
      rfl
    · rw [List.map_cons, glue_cons _ _ (by simpa using hrs), ih, List.map_cons,
        glue_cons _ _ (by simpa using hrs)]
      simp [Points.ofString, Points.ofChars]

theorem infix_glue {α : Type} (separator : List α) {p : List α} {ps : List (List α)} (hp : p ∈ ps) :
    p <:+: glue separator ps := by
  induction ps with
  | nil => cases hp
  | cons q ps ih =>
    by_cases hps : ps = []
    · subst hps
      rw [List.mem_singleton.mp hp]
      exact List.infix_refl q
    · rw [glue_cons _ _ hps]
      rcases List.mem_cons.mp hp with rfl | hp
      · exact ⟨[], separator ++ glue separator ps, by simp⟩
      · exact (ih hp).trans (List.suffix_append _ _).isInfix

/-- The pieces of a text are texts. -/
theorem exists_ofString_of_mem_pieces {separator text : String} (hs : separator ≠ "") {ps : Points}
    (hps : ps ∈ pieces (Points.ofString separator) (Points.ofString text)) :
    ∃ r, ps = Points.ofString r := by
  have hs' : Points.ofString separator ≠ [] := fun h => hs (Points.ofString_eq_nil.mp h)
  have hin := infix_glue (Points.ofString separator) hps
  rw [glue_pieces hs'] at hin
  obtain ⟨before, after, h⟩ := hin
  obtain ⟨cs, ds, -, hcs, -⟩ := List.map_eq_append_iff.mp h.symm
  obtain ⟨_, es, -, -, hes⟩ := List.map_eq_append_iff.mp hcs
  refine ⟨String.ofList es, ?_⟩
  rw [Points.ofString, String.toList_ofList]
  exact hes.symm

/-- Two separators that glue the same pieces to the same are the same. -/
theorem separator_inj {α : Type} {s t : List α} {ps : List (List α)} (hps : 2 ≤ ps.length)
    (h : glue s ps = glue t ps) : s = t := by
  have heq : s.length = t.length := by
    have hsum := congrArg List.length h
    rw [length_glue, length_glue, Nat.add_left_cancel_iff] at hsum
    exact Nat.eq_of_mul_eq_mul_left (by omega) hsum
  obtain ⟨p, qs, rfl⟩ : ∃ p qs, ps = p :: qs := List.exists_cons_of_length_pos (by omega)
  have hqs : qs ≠ [] := by
    rintro rfl
    exact absurd hps (by simp)
  rw [glue_cons s p hqs, glue_cons t p hqs, List.append_assoc, List.append_assoc] at h
  exact (List.append_inj (List.append_cancel_left h) heq).1

end Text

namespace Path

/-! ## Names of paths of texts -/

theorem points_texts (rs : List String) :
    points (rs.map Value.text) = .ok (rs.map Points.ofString) := by
  rw [points_eq_ok_iff, List.map_map, List.map_map]
  rfl

/-- Segments that are texts of some sort come from such texts. -/
theorem exists_texts {P : String → Prop} {path : Path} (h : ∀ v ∈ path, ∃ r, v = .text r ∧ P r) :
    ∃ rs : List String, path = rs.map Value.text ∧ ∀ r ∈ rs, P r := by
  induction path with
  | nil => exact ⟨[], rfl, by simp⟩
  | cons v path ih =>
    obtain ⟨r, rfl, hr⟩ := h v List.mem_cons_self
    obtain ⟨rs, rfl, hrs⟩ := ih fun w hw => h w (.tail _ hw)
    exact ⟨r :: rs, rfl, List.forall_mem_cons.mpr ⟨hr, hrs⟩⟩

theorem format_texts (separator : String) (rs : List String) :
    format separator (rs.map Value.text) = .ok (Text.join separator rs) := by
  rw [format, write_eq_ok (points_texts rs), Text.glue_ofString]
  exact congrArg Except.ok (Points.shown_ofString _)

/-- A pattern is read as its pieces. -/
theorem parse_eq_ok {separator text : String} (hs : separator ≠ "") (ht : text ≠ "") :
    ∃ pattern, parse separator text = .ok pattern ∧ pattern ≠ [] ∧
      pieces (Points.ofString separator) (Points.ofString text) = pattern.map Points.ofString := by
  have ht' : Points.ofString text ≠ [] := fun h => ht (Points.ofString_eq_nil.mp h)
  have hs' : Points.ofString separator ≠ [] := fun h => hs (Points.ofString_eq_nil.mp h)
  have htexts : ∀ ps ∈ pieces (Points.ofString separator) (Points.ofString text),
      Points.ofString (Points.shown ps) = ps ∧
        (Value.scalar (.ofPoints ps)).label = Points.shown ps := by
    intro ps hps
    obtain ⟨r, rfl⟩ := Text.exists_ofString_of_mem_pieces hs hps
    rw [Points.shown_ofString, Scalar.ofPoints_ofString]
    exact ⟨rfl, rfl⟩
  refine ⟨(pieces (Points.ofString separator) (Points.ofString text)).map Points.shown, ?_, ?_, ?_⟩
  · rw [parse, ofWritten, read, if_neg ht', if_neg hs]
    refine congrArg Except.ok (List.map_map.trans ?_)
    exact List.map_congr_left fun ps hps => (htexts ps hps).2
  · rw [Ne, List.map_eq_nil_iff]
    exact piecesFrom_ne_nil (Points.ofString separator) 0 [] (Points.ofString text)
  · refine (List.map_map.trans ?_).symm
    exact (List.map_congr_left fun ps hps => (htexts ps hps).1).trans (List.map_id _)

/-- Every text can be read as a pattern; the empty one has no pieces. -/
theorem exists_parse {separator : String} (hs : separator ≠ "") (text : String) :
    ∃ pattern, parse separator text = .ok pattern := by
  by_cases ht : text = ""
  · subst ht
    exact ⟨[], rfl⟩
  · obtain ⟨pattern, hpattern, -⟩ := parse_eq_ok hs ht
    exact ⟨pattern, hpattern⟩

/-- The name of a path is empty only if its title is. -/
theorem join_ne_empty (separator : String) {r : String} (rs : List String) (hr : r ≠ "") :
    Text.join separator (r :: rs) ≠ "" := by
  intro h
  have hmem : Points.ofString r ∈ (r :: rs).map Points.ofString := by simp
  have hin := Text.infix_glue (Points.ofString separator) hmem
  rw [Text.glue_ofString, h] at hin
  exact hr (Points.ofString_eq_nil.mp (List.infix_nil.mp hin))

/-- A name that is cut at its own separator, which no segment holds or ends with, gives them. -/
theorem parse_join_pair {c : Char} {rs : List String} (hrs : rs ≠ [])
    (hclear : ∀ r ∈ rs, c.toNat ∉ Points.ofString r)
    (hne : Text.join (String.ofList [c, c]) rs ≠ "") :
    parse (String.ofList [c, c]) (Text.join (String.ofList [c, c]) rs) = .ok rs := by
  have hsep : Points.ofString (String.ofList [c, c]) = [c.toNat, c.toNat] := by
    simp [Points.ofString, Points.ofChars]
  have hs : String.ofList [c, c] ≠ "" := by
    intro h
    rw [← Points.ofString_eq_nil, hsep] at h
    cases h
  obtain ⟨pattern, hpattern, -, hpieces⟩ := parse_eq_ok hs hne
  have hin : ∀ ps ∈ rs.map Points.ofString, ¬ [c.toNat, c.toNat] <:+: ps := by
    intro ps hps hin
    obtain ⟨r, hr, rfl⟩ := List.mem_map.mp hps
    exact hclear r hr (hin.subset (by simp))
  have hcut : pieces [c.toNat, c.toNat] (glue [c.toNat, c.toNat] (rs.map Points.ofString)) =
      rs.map Points.ofString := by
    refine (pieces_glue_iff (by simp) (by simpa using hrs)).mpr ⟨?_, ?_⟩
    · intro ps hps
      have hmem := List.dropLast_subset _ hps
      refine endsClear_pair_iff.mpr ⟨hin ps hmem, fun hlast => ?_⟩
      obtain ⟨r, hr, rfl⟩ := List.mem_map.mp hmem
      exact hclear r hr (List.mem_of_getLast? hlast)
    · intro ps hps
      exact hin ps (List.mem_of_getLast? hps)
  rw [← Text.glue_ofString, hsep, hcut] at hpieces
  rw [hpattern, List.map_injective_iff.mpr (fun _ _ => Points.ofString_inj.mp) hpieces]

/-- A name that is cut at another separator does not give the segments. -/
theorem separator_eq_of_parse {separator other : String} {rs : List String} (hs : separator ≠ "")
    (hrs : 2 ≤ rs.length) (hne : Text.join other rs ≠ "")
    (h : parse separator (Text.join other rs) = .ok rs) : separator = other := by
  obtain ⟨pattern, hpattern, -, hpieces⟩ := parse_eq_ok hs hne
  rw [hpattern] at h
  cases h
  have hs' : Points.ofString separator ≠ [] := fun h => hs (Points.ofString_eq_nil.mp h)
  have hglue : glue (Points.ofString separator) (rs.map Points.ofString) =
      glue (Points.ofString other) (rs.map Points.ofString) := by
    rw [← hpieces, glue_pieces hs', hpieces, Text.glue_ofString]
  exact Points.ofString_inj.mp (Text.separator_inj (by simpa using hrs) hglue)

end Path

namespace Selection

/-! ## What a pattern addresses -/

theorem alikeItems_texts_iff {vs : List Value} {rs : List String} :
    Value.alikeItems vs (rs.map Value.text) = true ↔ vs = rs.map Value.text := by
  induction vs generalizing rs with
  | nil => cases rs <;> simp [Value.alikeItems]
  | cons v vs ih =>
    cases rs with
    | nil => simp [Value.alikeItems]
    | cons r rs =>
      rw [List.map_cons, Value.alikeItems, Bool.and_eq_true, Value.alike_text_iff, ih,
        List.cons.injEq]

/-- A pattern with some segment addresses the paths that begin with its segments. -/
theorem addresses_iff {pattern : List String} {path : Path} (h : pattern ≠ []) :
    addresses pattern path = true ↔ pattern.map Value.text <+: path := by
  rw [addresses, Bool.and_eq_true, alikeItems_texts_iff, List.prefix_iff_eq_take, List.length_map,
    eq_comm (a := pattern.map Value.text)]
  exact and_iff_right (by simpa using h)

end Selection

end CaseGrid
