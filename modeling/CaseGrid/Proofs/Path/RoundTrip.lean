import CaseGrid.Proofs.Expansion.Product
import CaseGrid.Proofs.Text.Glue
import CaseGrid.Proofs.Text.Pieces

/-
  Reading a written path. Every segment of the path of a case is a text, so that the path can be
  written, and its last segment is the name of a candidate, which does not hold the separator. A
  written path therefore reads back as the path exactly when each other segment ends clear.

  Labels do not hold the separator, but nothing keeps them from ending with the beginning of one:
  with the separator of two colons a title that ends with a colon is read back without it, and
  the next segment gets it. Nothing at all compares the names of variables with the separator.
-/

namespace CaseGrid

open CaseGrid.Text (Points EndsClear glue pieces glue_cons glue_inj_of_length glue_pieces
  pieces_glue_iff endsClear_pair_iff)
open CaseGrid.Validation CaseGrid.Expansion

namespace Path

/-! ## Writing and reading -/

/-- The scalar of code points has as many. -/
theorem length_points?_ofPoints {ps qs : Points}
    (h : (Value.scalar (.ofPoints ps)).points? = some qs) : qs.length = ps.length := by
  rw [Scalar.ofPoints] at h
  split at h
  · cases h
    rfl
  · cases h
    simp [Points.ofString, Points.ofChars, Points.chars]

theorem eq_ofPoints {path : Path} {pss : List Points} (h : path.points = .ok pss) :
    path = pss.map fun ps => .scalar (.ofPoints ps) := by
  rw [points_eq_ok_iff] at h
  induction path generalizing pss with
  | nil =>
    cases pss with
    | nil => rfl
    | cons ps pss => cases h
  | cons v path ih =>
    cases pss with
    | nil => cases h
    | cons ps pss =>
      rw [List.map_cons, List.map_cons] at h
      obtain ⟨hv, hpath⟩ := List.cons.inj h
      rw [List.map_cons, ← ih hpath, ← Value.eq_ofPoints hv]

theorem map_length_of_ofPoints {pss qss : List Points}
    (h : points (qss.map fun ps => .scalar (.ofPoints ps)) = .ok pss) :
    qss.map List.length = pss.map List.length := by
  rw [points_eq_ok_iff, List.map_map] at h
  induction qss generalizing pss with
  | nil =>
    cases pss with
    | nil => rfl
    | cons ps pss => cases h
  | cons qs qss ih =>
    cases pss with
    | nil => cases h
    | cons ps pss =>
      rw [List.map_cons, List.map_cons] at h
      obtain ⟨hq, hqss⟩ := List.cons.inj h
      rw [List.map_cons, List.map_cons, ih hqss, length_points?_ofPoints hq]

/-- A written path that is not empty reads back as the path exactly when each segment but the last
ends clear and the last one does not hold the separator. -/
theorem ofWritten_glue_iff {separator : String} {path : Path} {pss : List Points}
    (hsep : separator ≠ "") (hpoints : path.points = .ok pss)
    (hne : glue (Points.ofString separator) pss ≠ []) :
    ofWritten separator (glue (Points.ofString separator) pss) = .ok path ↔
      (∀ ps ∈ pss.dropLast, EndsClear (Points.ofString separator) ps) ∧
        ∀ ps ∈ pss.getLast?, ¬ Points.ofString separator <:+: ps := by
  have hsep' : Points.ofString separator ≠ [] := fun h => hsep (Points.ofString_eq_nil.mp h)
  have hpss : pss ≠ [] := by
    rintro rfl
    exact hne rfl
  rw [← pieces_glue_iff hsep' hpss, ofWritten, read, if_neg hne, if_neg hsep]
  constructor
  · intro h
    refine glue_inj_of_length ?_ (glue_pieces hsep' _)
    have hpath : (pieces (Points.ofString separator) (glue (Points.ofString separator) pss)).map
        (fun ps => Value.scalar (.ofPoints ps)) = path := Except.ok.inj h
    exact map_length_of_ofPoints (hpath ▸ hpoints)
  · intro h
    rw [h, eq_ofPoints hpoints]
    rfl

/-- What holds of the code points of the segments, said of the segments. -/
theorem forall_points_iff {path : Path} {pss : List Points} {P : Points → Prop}
    (h : path.map Value.points? = pss.map some) :
    (∀ ps ∈ pss, P ps) ↔ ∀ v ∈ path, ∀ ps, v.points? = some ps → P ps := by
  constructor
  · intro hall v hv ps hps
    have hmem : some ps ∈ pss.map some := by
      rw [← h, ← hps]
      exact List.mem_map_of_mem hv
    exact hall ps (by simpa using hmem)
  · intro hall ps hps
    have hmem : some ps ∈ path.map Value.points? := h ▸ List.mem_map_of_mem hps
    obtain ⟨v, hv, hvps⟩ := List.mem_map.mp hmem
    exact hall v hv ps hvps

end Path

/-! ## The path of a case -/

/-- A segment of a case is a label or the name of a variable. -/
theorem Case.segment_of_mem_path {config : Config} {s : Scenario} {vs : List Variable}
    (h : Kept config s vs) {c : Case} (hc : c ∈ casesOf s vs) {v : Value} (hv : v ∈ c.path) :
    IsLabel config.separator v ∨ ∃ r, v = .text r ∧ Text.isIdentifier r = true := by
  obtain ⟨m, cs, -, hcs, rfl⟩ := chosen_of_mem_casesOf h hc
  rcases List.mem_cons.mp hv with rfl | hv
  · exact .inl h.frame.title
  · obtain ⟨p, hp, hvp⟩ := List.mem_flatMap.mp hv
    have hkept := h.declared.each p.1 (List.of_mem_zip hp).1
    rcases List.mem_pair.mp hvp with rfl | rfl
    · obtain ⟨r, hr, hi, -⟩ := hkept.name.identifier
      exact .inr ⟨r, hr, hi⟩
    · exact .inl (hkept.choices.labels p.2 (hcs.mem_values hp))

/-- Every segment of a case is a text. -/
theorem Case.path_texts {config : Config} {s : Scenario} {vs : List Variable}
    (h : Kept config s vs) {c : Case} (hc : c ∈ casesOf s vs) :
    ∀ v ∈ c.path, ∃ ps, v.points? = some ps := by
  intro v hv
  rcases Case.segment_of_mem_path h hc hv with ⟨ps, hps, -⟩ | ⟨r, rfl, -⟩
  · exact ⟨ps, hps⟩
  · exact ⟨_, rfl⟩

/-- The last segment of a case is the name of a candidate. -/
theorem Case.path_getLast? {config : Config} {s : Scenario} {vs : List Variable}
    (h : Kept config s vs) {c : Case} (hc : c ∈ casesOf s vs) :
    ∃ v, c.path.getLast? = some v ∧ IsLabel config.separator v := by
  obtain ⟨m, cs, -, hcs, rfl⟩ := chosen_of_mem_casesOf h hc
  have hzip : vs.zip cs ≠ [] := by
    rw [← List.length_pos_iff, List.length_zip, hcs.length_eq, Nat.min_self]
    exact List.length_pos_iff.mpr h.ne_nil
  obtain ⟨ps, p, hps⟩ := (List.eq_nil_or_concat _).resolve_left hzip
  have hp : p ∈ vs.zip cs := by simp [hps]
  have hlabel := (h.declared.each p.1 (List.of_mem_zip hp).1).choices.labels p.2
    (hcs.mem_values hp)
  refine ⟨p.2.name, ?_, hlabel⟩
  simp [segments, hps, List.getLast?_cons]

/-- The written path of a case is not empty, for its title is not. -/
theorem Case.glue_points_ne_nil {config : Config} {s : Scenario} {vs : List Variable}
    (h : Kept config s vs) {c : Case} (hc : c ∈ casesOf s vs) {pss : List Points}
    (hpss : c.path.map Value.points? = pss.map some) {separator : Points} :
    glue separator pss ≠ [] := by
  obtain ⟨m, cs, -, -, rfl⟩ := chosen_of_mem_casesOf h hc
  obtain ⟨ps, hps, hne, -⟩ := h.frame.title
  cases pss with
  | nil => cases hpss
  | cons qs pss =>
    rw [List.map_cons, List.map_cons] at hpss
    obtain ⟨hq, -⟩ := List.cons.inj hpss
    rw [hps] at hq
    cases hq
    cases pss with
    | nil => exact hne
    | cons rs pss =>
      rw [glue_cons _ _ (by simp)]
      simp [hne]

/-- A scenario with the empty separator has no label. -/
theorem Validation.Kept.separator_ne_empty {config : Config} {s : Scenario} {vs : List Variable}
    (h : Kept config s vs) : config.separator ≠ "" := by
  obtain ⟨ps, -, -, hnot⟩ := h.frame.title
  intro hempty
  rw [hempty] at hnot
  exact hnot List.nil_infix

/-- An identifier holds no colon. -/
theorem colon_not_mem_of_isIdentifier {r : String} (h : Text.isIdentifier r = true) :
    ':'.toNat ∉ Points.ofString r := by
  intro hmem
  obtain ⟨c, hc, hcc⟩ := List.mem_map.mp hmem
  obtain rfl : c = ':' := Char.toNat_inj.mp hcc
  rw [Text.isIdentifier] at h
  cases hr : r.toList with
  | nil =>
    rw [hr] at hc
    cases hc
  | cons d ds =>
    rw [hr, Text.isIdentifierChars, Bool.and_eq_true, List.all_eq_true] at h
    rw [hr] at hc
    rcases List.mem_cons.mp hc with rfl | hc
    · exact absurd h.1 (by decide)
    · exact absurd (h.2 _ hc) (by decide)

/-- With the separator of two colons no segment of a case holds the separator. -/
theorem Case.path_no_separator {config : Config} {s : Scenario} {vs : List Variable}
    (h : Kept config s vs) (hsep : config.separator = "::") {c : Case} (hc : c ∈ casesOf s vs) :
    ∀ v ∈ c.path, ∀ ps, v.points? = some ps → ¬ Points.ofString "::" <:+: ps := by
  intro v hv ps hps
  rcases Case.segment_of_mem_path h hc hv with ⟨qs, hqs, -, hnot⟩ | ⟨r, rfl, hi⟩
  · rw [hps] at hqs
    cases hqs
    exact hsep ▸ hnot
  · cases hps
    intro hin
    exact colon_not_mem_of_isIdentifier hi (hin.subset (by decide))

/--
The path of a case can always be written, and what is written reads back as the path exactly when
each segment but the last ends clear of the separator that follows it. With the separator of two
colons that is to say that none of them ends with a colon.
-/
theorem ofWritten_write_iff {config : Config} {s : Scenario} {cases : List Case} {t t' : Trace}
    (h : expand config s t = (.ok cases, t')) {c : Case} (hc : c ∈ cases) :
    (∃ w, c.path.write config.separator = .ok w) ∧
    (c.path.write config.separator >>= Path.ofWritten config.separator = .ok c.path ↔
      ∀ v ∈ c.path.dropLast, ∀ ps, v.points? = some ps →
        EndsClear (Points.ofString config.separator) ps) ∧
    (config.separator = "::" →
      (c.written config >>= Path.ofWritten config.separator = .ok c.path ↔
        ∀ v ∈ c.path.dropLast, ∀ ps, v.points? = some ps → ps.getLast? ≠ some ':'.toNat)) := by
  obtain ⟨vs, hkept, rfl⟩ := kept_of_expand h
  obtain ⟨pss, hpss⟩ := Path.points_of_texts (Case.path_texts hkept hc)
  have hmap : c.path.map Value.points? = pss.map some := Path.points_eq_ok_iff.mp hpss
  have hround : c.path.write config.separator >>= Path.ofWritten config.separator = .ok c.path ↔
      ∀ v ∈ c.path.dropLast, ∀ ps, v.points? = some ps →
        EndsClear (Points.ofString config.separator) ps := by
    have hdrop : c.path.dropLast.map Value.points? = pss.dropLast.map some := by
      rw [List.map_dropLast, List.map_dropLast, hmap]
    rw [← Path.forall_points_iff hdrop, Path.write_eq_ok hpss]
    refine (Path.ofWritten_glue_iff hkept.separator_ne_empty hpss
      (Case.glue_points_ne_nil hkept hc hmap)).trans (and_iff_left ?_)
    intro ps hps
    obtain ⟨v, hv, qs, hqs, -, hnot⟩ := Case.path_getLast? hkept hc
    have hlast : some v.points? = some (some ps) := by
      rw [← Option.map_some, ← hv, ← List.getLast?_map, hmap, List.getLast?_map, hps]
      rfl
    rw [hqs] at hlast
    cases hlast
    exact hnot
  refine ⟨⟨_, Path.write_eq_ok hpss _⟩, hround, ?_⟩
  intro hsep
  refine Iff.trans hround ?_
  have hclear (v : Value) (hv : v ∈ c.path.dropLast) (ps : Points) (hps : v.points? = some ps) :
      EndsClear (Points.ofString config.separator) ps ↔ ps.getLast? ≠ some ':'.toNat := by
    have hno := Case.path_no_separator hkept hsep hc v (List.dropLast_subset _ hv) ps hps
    rw [hsep]
    exact endsClear_pair_iff.trans (and_iff_right hno)
  constructor
  · intro hall v hv ps hps
    exact (hclear v hv ps hps).mp (hall v hv ps hps)
  · intro hall v hv ps hps
    exact (hclear v hv ps hps).mpr (hall v hv ps hps)

/-- A grid of one with a title. -/
def titledGrid (title : String) : Scenario :=
  { gridOf 1 1 with title := .text title }

/-- The case of a grid of one. -/
def titledCase (title : String) : Case :=
  ⟨[.text title, .text "v0", .text "0"], [(.text "v0", .int 0)], some (titledGrid title)⟩

theorem expand_titledGrid {title : String} (h : Kept {} (titledGrid title) (axes 1 1)) :
    (expand {} (titledGrid title) default).1 = .ok [titledCase title] := by
  rw [expand_of_kept h]
  rfl

/-- A title that does not end with a colon is read back. -/
theorem ofWritten_titledCase :
    (expand {} (titledGrid "t") default).1 = .ok [titledCase "t"] ∧
      (titledCase "t").written {} >>= Path.ofWritten "::" = .ok (titledCase "t").path := by
  have hkept : Kept {} (titledGrid "t") (axes 1 1) := checkScenario_eq_ok_iff.mp rfl
  have hmem : titledCase "t" ∈ casesOf (titledGrid "t") (axes 1 1) := List.mem_singleton.mpr rfl
  refine ⟨expand_titledGrid hkept,
    ((ofWritten_write_iff (expand_of_kept hkept default) hmem).2.2 rfl).mpr ?_⟩
  intro v hv ps hps
  rcases List.mem_pair.mp hv with rfl | rfl
  · cases hps
    decide
  · cases hps
    decide

/-- A colon at the end of a title goes to the name of the variable. -/
theorem ofWritten_titledCase_colon :
    (expand {} (titledGrid "t:") default).1 = .ok [titledCase "t:"] ∧
      (titledCase "t:").path = [.text "t:", .text "v0", .text "0"] ∧
      (titledCase "t:").written {} >>= Path.ofWritten "::" =
        .ok [.text "t", .text ":v0", .text "0"] ∧
      (titledCase "t:").written {} >>= Path.ofWritten "::" ≠ .ok (titledCase "t:").path := by
  have hkept : Kept {} (titledGrid "t:") (axes 1 1) := checkScenario_eq_ok_iff.mp rfl
  have hread : (titledCase "t:").written {} >>= Path.ofWritten "::" =
      .ok [.text "t", .text ":v0", .text "0"] := rfl
  refine ⟨expand_titledGrid hkept, rfl, hread, ?_⟩
  rw [hread]
  intro h
  simp [titledCase] at h

end CaseGrid
