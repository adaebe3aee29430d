import CaseGrid.Proofs.Path.Pattern
import CaseGrid.Proofs.Path.RoundTrip

/-
  Selecting cases by the written forms of their paths. A selection cuts its patterns and compares
  segments; what it means is said of texts: a pattern is what a path is written as, or the beginning
  of it up to a separator. The two agree where no segment is empty or shares a code point with the
  separator: the separator then stands between the segments only, in none of them and not across the
  end of one.

  Proved: `select_eq_filter`, for all lists of patterns, in terms of written paths only.
-/

namespace CaseGrid

open CaseGrid.Text (Points EndsClear endsClear_nil endsClear_cons_iff glue glue_cons glue_pieces
  pieces pieces_glue_iff piecesFrom_ne_nil)

namespace Text

variable {α : Type} {separator : List α}

/-! ## Pieces that share nothing with the separator -/

/-- No piece is empty or has an item of the separator. -/
def Separable (separator : List α) (ps : List (List α)) : Prop :=
  ∀ p ∈ ps, p ≠ [] ∧ p.Disjoint separator

theorem endsClear_of_disjoint (hs : separator ≠ []) {p : List α} (h : p.Disjoint separator) :
    EndsClear separator p := by
  induction p with
  | nil => exact endsClear_nil hs
  | cons c p ih =>
    obtain ⟨hc, hp⟩ := List.disjoint_cons_left.mp h
    refine endsClear_cons_iff.mpr ⟨fun hopen => ?_, ih hp⟩
    obtain ⟨s, ss, rfl⟩ := List.exists_cons_of_ne_nil hs
    obtain ⟨rfl, -⟩ := List.cons_prefix_cons.mp hopen
    exact hc List.mem_cons_self

theorem not_infix_of_disjoint (hs : separator ≠ []) {p : List α} (h : p.Disjoint separator) :
    ¬ separator <:+: p := by
  intro hin
  obtain ⟨s, ss, rfl⟩ := List.exists_cons_of_ne_nil hs
  exact h (hin.subset List.mem_cons_self) List.mem_cons_self

theorem glue_append {ps qs : List (List α)} (hps : ps ≠ []) (hqs : qs ≠ []) :
    glue separator (ps ++ qs) = glue separator ps ++ separator ++ glue separator qs := by
  induction ps with
  | nil => exact absurd rfl hps
  | cons p ps ih =>
    rw [List.cons_append, glue_cons _ _ (by simp [hqs])]
    by_cases hnil : ps = []
    · subst hnil
      rfl
    · rw [ih hnil, glue_cons _ _ hnil]
      simp only [List.append_assoc]

/-- Glued pieces begin with an item that is not of the separator. -/
theorem glue_eq_cons {ps : List (List α)} (h : Separable separator ps) (hne : ps ≠ []) :
    ∃ x xs, glue separator ps = x :: xs ∧ x ∉ separator := by
  obtain ⟨p, qs, rfl⟩ := List.exists_cons_of_ne_nil hne
  obtain ⟨hp, hfree⟩ := h p List.mem_cons_self
  obtain ⟨x, xs, rfl⟩ := List.exists_cons_of_ne_nil hp
  have hx : x ∉ separator := fun hx => hfree List.mem_cons_self hx
  by_cases hqs : qs = []
  · subst hqs
    exact ⟨x, xs, rfl, hx⟩
  · rw [glue_cons _ _ hqs]
    exact ⟨x, _, rfl, hx⟩

/-- The separator does not begin in one that pieces follow and end after it. -/
theorem eq_nil_of_overlap {u v after : List α} {ps : List (List α)} (h : Separable separator ps)
    (hne : ps ≠ []) (hsep : separator = u ++ v)
    (hlater : separator ++ after = v ++ glue separator ps) : u = [] := by
  obtain ⟨x, xs, hglue, hx⟩ := glue_eq_cons h hne
  rw [hglue] at hlater
  rcases List.append_eq_append_iff.mp hlater with ⟨w, hv, -⟩ | ⟨w, hw, hrest⟩
  · have hlength := congrArg List.length hsep
    rw [hv, List.length_append, List.length_append] at hlength
    exact List.length_eq_zero_iff.mp (by omega)
  · cases w with
    | nil =>
      have hlength := congrArg List.length hsep
      rw [hw, List.append_nil, List.length_append] at hlength
      exact List.length_eq_zero_iff.mp (by omega)
    | cons y w =>
      obtain ⟨rfl, -⟩ := List.cons.inj hrest
      exact absurd (hw ▸ by simp) hx

/-- Where the separator stands in glued pieces, some of the pieces end. -/
theorem exists_of_prefix_glue (hs : separator ≠ []) {ps : List (List α)}
    (h : Separable separator ps) {text : List α}
    (hbegins : text ++ separator <+: glue separator ps) :
    ∃ qs rest, ps = qs ++ rest ∧ qs ≠ [] ∧ rest ≠ [] ∧ text = glue separator qs := by
  induction ps generalizing text with
  | nil =>
    have hnil := List.prefix_nil.mp hbegins
    exact absurd (List.append_eq_nil_iff.mp hnil).2 hs
  | cons p ps ih =>
    obtain ⟨⟨-, hfree⟩, hps⟩ := List.forall_mem_cons.mp h
    by_cases hnil : ps = []
    · subst hnil
      have hin : separator <:+: p := (List.suffix_append _ _).isInfix.trans hbegins.isInfix
      exact absurd hin (not_infix_of_disjoint hs hfree)
    obtain ⟨after, hafter⟩ := hbegins
    rw [glue_cons _ _ hnil, List.append_assoc, List.append_assoc] at hafter
    have hfirst : ∃ qs rest, p :: ps = qs ++ rest ∧ qs ≠ [] ∧ rest ≠ [] ∧ p = glue separator qs :=
      ⟨[p], ps, rfl, by simp, hnil, rfl⟩
    -- The text ends in the first piece, with it, in the separator after it, or later.
    rcases List.append_eq_append_iff.mp hafter with ⟨u, hp, hrest⟩ | ⟨u, htext, hrest⟩
    · cases u with
      | nil =>
        rw [List.append_nil] at hp
        exact hp ▸ hfirst
      | cons x u =>
        obtain ⟨s, ss, rfl⟩ := List.exists_cons_of_ne_nil hs
        obtain ⟨rfl, -⟩ := List.cons.inj hrest
        exact absurd List.mem_cons_self (hfree (hp ▸ by simp))
    · rcases List.append_eq_append_iff.mp hrest with ⟨v, hu, hglue⟩ | ⟨v, hsep, hlater⟩
      · have hlater : v ++ separator <+: glue separator ps := ⟨after, by simp [hglue]⟩
        obtain ⟨qs, rest, hparts, hqs, hrest, hv⟩ := ih hps hlater
        refine ⟨p :: qs, rest, by rw [hparts, List.cons_append], by simp, hrest, ?_⟩
        rw [glue_cons _ _ hqs, htext, hu, hv, List.append_assoc]
      · obtain rfl := eq_nil_of_overlap hps hnil hsep hlater
        rw [List.append_nil] at htext
        exact htext ▸ hfirst

variable [BEq α] [LawfulBEq α]

/-- Pieces that share nothing with the separator are cut as they were glued. -/
theorem pieces_glue (hs : separator ≠ []) {ps : List (List α)} (h : Separable separator ps)
    (hne : ps ≠ []) : pieces separator (glue separator ps) = ps :=
  (pieces_glue_iff hs hne).mpr
    ⟨fun p hp => endsClear_of_disjoint hs (h p (List.dropLast_subset _ hp)).2,
      fun p hp => not_infix_of_disjoint hs (h p (List.mem_of_getLast? hp)).2⟩

/-- The pieces of a text come first just if it is the glued pieces or their beginning up to a
separator. -/
theorem pieces_prefix_iff (hs : separator ≠ []) {ps : List (List α)} (h : Separable separator ps)
    (hne : ps ≠ []) {text : List α} :
    pieces separator text <+: ps ↔
      glue separator ps = text ∨ text ++ separator <+: glue separator ps := by
  constructor
  · rintro ⟨rest, rfl⟩
    by_cases hrest : rest = []
    · subst hrest
      rw [List.append_nil, glue_pieces hs]
      exact .inl rfl
    · have hcut : pieces separator text ≠ [] := piecesFrom_ne_nil separator 0 [] text
      rw [glue_append hcut hrest, glue_pieces hs]
      exact .inr (List.prefix_append _ _)
  · rintro (rfl | hbegins)
    · rw [pieces_glue hs h hne]
    · obtain ⟨qs, rest, rfl, hqs, -, rfl⟩ := exists_of_prefix_glue hs h hbegins
      rw [pieces_glue hs (fun q hq => h q (List.mem_append_left _ hq)) hqs]
      exact List.prefix_append _ _

end Text

/-! ## What patterns select -/

namespace Selection

/-- A path is written as a pattern, or as what begins with the pattern and a separator. -/
def IsUnder (separator pattern : String) (path : Path) : Prop :=
  ∃ w, path.write separator = .ok w ∧
    (w = Points.ofString pattern ∨ Points.ofString pattern ++ Points.ofString separator <+: w)

instance (separator pattern : String) (path : Path) : Decidable (IsUnder separator pattern path) :=
  match h : path.write separator with
  | .ok w =>
    decidable_of_iff
      (w = Points.ofString pattern ∨ Points.ofString pattern ++ Points.ofString separator <+: w)
      ⟨fun hw => ⟨w, h, hw⟩, fun ⟨_, hw', hw⟩ => by cases h.symm.trans hw'; exact hw⟩
  | .error _ => .isFalse fun ⟨_, hw, _⟩ => by cases h.symm.trans hw

end Selection

/-- A path of some segments, each a text that is not empty and has no code point of the separator. -/
def Path.Plain (separator : String) (path : Path) : Prop :=
  path ≠ [] ∧ ∀ v ∈ path, ∃ ps, v.points? = some ps ∧ ps ≠ [] ∧
    ps.Disjoint (Points.ofString separator)

namespace Selection

variable {separator : String}

theorem exists_separable {path : Path} (h : path.Plain separator) :
    ∃ pss, path.points = .ok pss ∧ pss ≠ [] ∧ Text.Separable (Points.ofString separator) pss := by
  obtain ⟨hne, hplain⟩ := h
  obtain ⟨pss, hpss⟩ := Path.points_of_texts fun v hv => (hplain v hv).imp fun _ hps => hps.1
  have hmap := Path.points_eq_ok_iff.mp hpss
  refine ⟨pss, hpss, ?_, fun ps hps => ?_⟩
  · rintro rfl
    exact hne (List.map_eq_nil_iff.mp hmap)
  · have hmem : some ps ∈ path.map Value.points? := hmap ▸ List.mem_map_of_mem hps
    obtain ⟨v, hv, hvps⟩ := List.mem_map.mp hmem
    obtain ⟨qs, hqs, hclear⟩ := hplain v hv
    cases hvps.symm.trans hqs
    exact hclear

/-- Texts come first in a path just if their code points do. -/
theorem texts_prefix_iff {rs : List String} {path : Path} {pss : List Points}
    (h : path.points = .ok pss) :
    rs.map Value.text <+: path ↔ rs.map Points.ofString <+: pss := by
  have hmap := Path.points_eq_ok_iff.mp h
  constructor
  · rintro ⟨rest, rfl⟩
    rw [List.map_append] at hmap
    obtain ⟨before, after, rfl, hbefore, -⟩ := List.map_eq_append_iff.mp hmap.symm
    have htexts : before.map some = (rs.map Points.ofString).map some := by
      rw [hbefore, List.map_map, List.map_map]
      rfl
    rw [List.map_injective_iff.mpr (fun _ _ => Option.some.inj) htexts]
    exact List.prefix_append _ _
  · rintro ⟨rest, rfl⟩
    rw [List.map_append] at hmap
    obtain ⟨before, after, rfl, hbefore, -⟩ := List.map_eq_append_iff.mp hmap
    have htexts : before = rs.map Value.text := by
      rw [Path.eq_ofPoints (Path.points_eq_ok_iff.mpr hbefore), List.map_map]
      exact List.map_congr_left fun r _ => by simp [Scalar.ofPoints_ofString]
    rw [htexts]
    exact List.prefix_append _ _

/-- A pattern addresses the paths that are under it. -/
theorem addresses_iff_isUnder (hs : separator ≠ "") {path : Path} (h : path.Plain separator)
    {text : String} {pattern : List String} (hpattern : Path.parse separator text = .ok pattern) :
    addresses pattern path = true ↔ IsUnder separator text path := by
  have hs' : Points.ofString separator ≠ [] := fun h => hs (Points.ofString_eq_nil.mp h)
  obtain ⟨pss, hpss, hne, hseparable⟩ := exists_separable h
  have hunder : IsUnder separator text path ↔
      pieces (Points.ofString separator) (Points.ofString text) <+: pss := by
    rw [Text.pieces_prefix_iff hs' hseparable hne, IsUnder, Path.write_eq_ok hpss]
    simp
  rw [hunder]
  by_cases htext : text = ""
  · -- The empty pattern has no segments; its only piece is empty and in no path.
    subst htext
    cases hpattern
    refine iff_of_false Bool.false_ne_true fun hbegins => ?_
    have hempty : [] ∈ pss := hbegins.subset (List.mem_singleton.mpr rfl)
    exact (hseparable [] hempty).1 rfl
  · obtain ⟨pattern', hpattern', hpieces, hcut⟩ := Path.parse_eq_ok hs htext
    cases hpattern.symm.trans hpattern'
    rw [addresses_iff hpieces, texts_prefix_iff hpss, hcut]

/--
With a separator that is not empty, and cases whose paths have segments that are not empty and share
no code point with it, a selection keeps those cases, in order, whose written path is one of the
patterns or begins with one of them and the separator.
-/
theorem select_eq_filter (hs : separator ≠ "") {cases : List Case}
    (h : ∀ c ∈ cases, c.path.Plain separator) (patterns : List String) (t : Trace) :
    (select separator patterns cases t).1 =
      .ok (cases.filter fun c => patterns.any fun p => decide (IsUnder separator p c.path)) := by
  have hread : ∀ p ∈ patterns, ∃ pattern, Path.parse separator p = .ok pattern := by
    intro p _
    by_cases hp : p = ""
    · exact ⟨[], by rw [hp]; rfl⟩
    · obtain ⟨pattern, hpattern, -⟩ := Path.parse_eq_ok hs hp
      exact ⟨pattern, hpattern⟩
  obtain ⟨parsed, hparsed⟩ := exists_mapM_eq_ok hread
  have hselect : (select separator patterns cases t).1 = .ok (keep parsed cases) := by
    rw [select, parse, hparsed]
    rfl
  have hall := mapM_eq_ok_iff.mp hparsed
  rw [hselect, keep]
  refine congrArg Except.ok (List.filter_congr fun c hc => ?_)
  clear hparsed hselect hread
  induction hall with
  | nil => rfl
  | cons hpattern _ ih =>
    rw [List.any_cons, List.any_cons, ih, Bool.eq_iff_iff.mpr (addresses_iff_isUnder hs (h c hc)
      hpattern |>.trans decide_eq_true_iff.symm)]

/-- A case without bindings at a path of texts. -/
def caseAt (path : List String) : Case :=
  ⟨path.map Value.text, [], none⟩

theorem plain_caseAt {path : List String} (hne : path ≠ [])
    (h : ∀ r ∈ path, r ≠ "" ∧ ∀ n ∈ Points.ofString r, n ∉ Points.ofString separator) :
    (caseAt path).path.Plain separator := by
  refine ⟨by simpa [caseAt] using hne, fun v hv => ?_⟩
  obtain ⟨r, hr, rfl⟩ := List.mem_map.mp hv
  obtain ⟨hnonempty, hfree⟩ := h r hr
  exact ⟨_, rfl, fun hnil => hnonempty (Points.ofString_eq_nil.mp hnil), fun n hn hs => hfree n hn hs⟩

/-- Patterns that end before or after a separator, or within a segment, and the empty one select
nothing; one that is given twice selects no case twice. -/
theorem select_caseAt :
    (select "::" ["t::a", "t::a", "t:", "t::", "", "t::a::x::y"]
        [caseAt ["t", "a", "x"], caseAt ["t", "ab", "x"], caseAt ["t", "a", "x"]] default).1 =
      .ok [caseAt ["t", "a", "x"], caseAt ["t", "a", "x"]] := by
  refine (select_eq_filter (by decide) ?_ _ _).trans rfl
  intro c hc
  simp only [List.mem_cons, List.not_mem_nil, or_false] at hc
  rcases hc with rfl | rfl | rfl
  · exact plain_caseAt (by simp) (by decide)
  · exact plain_caseAt (by simp) (by decide)
  · exact plain_caseAt (by simp) (by decide)

end Selection

end CaseGrid
