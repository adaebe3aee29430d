import CaseGrid.Proofs.Command.Running

/-
  Reports of failures. A command prints lines of its own and, if its work fails, the report of the
  failure, which is told by the kind: a missing file, a failure of importing or a malformed scenario;
  any other failure has no report and passes on. A report that shows the text of a failure breaks off
  after its first line where that text cannot be formed. No line that a command prints itself can be
  taken for the first line of a report (`Unreported`).

  Proved: what a report prints and ends with (`reportFailure_run`), which failures are reported in a
  line (`notFound_mem_report`, `cannotImport_mem_report`), and that a guarded operation prints the
  report of its failure and no other (`printed_guarded_iff`).
-/

namespace CaseGrid

open Session

/-! ## Lines that an operation printed -/

namespace Session

/-- An operation printed a line. -/
def Printed {α : Type} (line : String) (x : Session α) (t : Trace) : Prop :=
  ∃ lines, (x t).2.printed = t.printed ++ lines ∧ line ∈ lines

section Printed

variable {α β : Type} {p p' : String → Prop} {q q' : Failure → Prop} {line : String}
  {x : Session α} {f : α → Session β} {t t₁ : Trace}

theorem printed_iff_of_eq {lines : List String} (h : (x t).2.printed = t.printed ++ lines) :
    Printed line x t ↔ line ∈ lines := by
  constructor
  · rintro ⟨lines', hlines, hline⟩
    rwa [List.append_cancel_left (h.symm.trans hlines)]
  · intro hline
    exact ⟨lines, h, hline⟩

/-- What was quiet before does not matter. -/
theorem printed_bind_of_ok {a : α} (hx : x t = (.ok a, t₁)) (hsame : t₁.printed = t.printed) :
    Printed line (x >>= f) t ↔ Printed line (f a) t₁ := by
  rw [Printed, Printed, bind_run_ok hx, hsame]

/-- What follows does not matter if it prints other lines only. -/
theorem printed_bind_iff (hx : Confined p' q' x) (hf : ∀ a, Confined p q (f a))
    (hline : ¬ p line) (t : Trace) : Printed line (x >>= f) t ↔ Printed line x t := by
  obtain ⟨⟨lines, hlines, -⟩, -⟩ := hx t
  match hrun : x t with
  | (.error e, t₁) => rw [Printed, Printed, bind_run_error hrun, hrun]
  | (.ok a, t₁) =>
    obtain ⟨⟨more, hmore, hkind⟩, -⟩ := hf a t₁
    have hlines' : (x t).2.printed = t.printed ++ lines := hlines
    rw [hrun] at hlines
    have hboth : ((x >>= f) t).2.printed = t.printed ++ (lines ++ more) := by
      rw [bind_run_ok hrun, hmore, hlines, List.append_assoc]
    rw [printed_iff_of_eq hboth, printed_iff_of_eq hlines', List.mem_append]
    exact or_iff_left fun hmem => hline (hkind line hmem)

end Printed

end Session

namespace Command

/-! ## Reports -/

/-- The line on a target that is not there. -/
def notFound (target : String) : String :=
  "ERROR: Target not found: " ++ target

/-- The line on a target that cannot be imported. -/
def cannotImport (target : String) : String :=
  "ERROR: Cannot import target: " ++ target

/-- The line of a report that shows the text of a failure, if it has one. -/
def detail (start : String) (f : Failure) : List String :=
  match f.message with
  | .ok text => [start ++ text]
  | .error _ => []

/-- The lines that report a failure. -/
def report (target : String) (f : Failure) : List String :=
  if f.isA .missingFile then [notFound target]
  else if f.isA .importing then cannotImport target :: detail ("  " ++ f.kind.name ++ ": ") f
  else if f.isA .specification then "ERROR: Invalid scenario" :: detail "  " f
  else []

/-- What showing the text of a failure ends with: the status for errors, if there is a text. -/
def afterText (f : Failure) : Failure :=
  match f.message with
  | .ok _ => .raised .systemExit [.int 1]
  | .error g => g

/-- The text of a failure can be shown, or forming it leaves with the status for errors itself. -/
def Showable (f : Failure) : Prop :=
  (∃ text, f.message = .ok text) ∨ f.message = .error (.raised .systemExit [.int 1])

theorem afterText_eq_iff {f : Failure} :
    afterText f = .raised .systemExit [.int 1] ↔ Showable f := by
  rw [afterText, Showable]
  cases f.message <;> simp

/-- What a report of a failure ends with: a failure that has none passes on. -/
def afterReport (f : Failure) : Failure :=
  if f.isA .missingFile then .raised .systemExit [.int 1]
  else if f.isA .importing then afterText f
  else if f.isA .specification then afterText f
  else f

/-- A line that begins no report. -/
def Unreported (line : String) : Prop :=
  line.toList[0]? ≠ some 'E'

theorem getElem?_of_start {start line : String} {i : Nat} {c : Char}
    (h : start.toList[i]? = some c) : (start ++ line).toList[i]? = some c := by
  obtain ⟨hi, -⟩ := List.getElem?_eq_some_iff.mp h
  rw [String.toList_append, List.getElem?_append_left hi, h]

theorem unreported_of_start {start line : String} {c : Char} (h : start.toList[0]? = some c)
    (hc : c ≠ 'E') : Unreported (start ++ line) := by
  rw [Unreported, getElem?_of_start h]
  exact fun heq => hc (Option.some.inj heq)

theorem unreported_indented (line : String) : Unreported ("  " ++ line) :=
  unreported_of_start (c := ' ') rfl (by decide)

theorem not_unreported_notFound (target : String) : ¬ Unreported (notFound target) :=
  not_not_intro (getElem?_of_start rfl)

theorem not_unreported_cannotImport (target : String) : ¬ Unreported (cannotImport target) :=
  not_not_intro (getElem?_of_start rfl)

/-- The character after the first word tells the reports apart. -/
theorem cannotImport_ne_notFound (target target' : String) :
    cannotImport target ≠ notFound target' := by
  intro h
  have hc : (cannotImport target).toList[7]? = some 'C' := getElem?_of_start rfl
  have ht : (notFound target').toList[7]? = some 'T' := getElem?_of_start rfl
  rw [h, ht] at hc
  exact absurd hc (by decide)

theorem invalid_ne_notFound (target : String) : "ERROR: Invalid scenario" ≠ notFound target := by
  intro h
  have ht : (notFound target).toList[7]? = some 'T' := getElem?_of_start rfl
  rw [← h] at ht
  exact absurd ht (by decide)

theorem invalid_ne_cannotImport (target : String) :
    "ERROR: Invalid scenario" ≠ cannotImport target := by
  intro h
  have hc : (cannotImport target).toList[7]? = some 'C' := getElem?_of_start rfl
  rw [← h] at hc
  exact absurd hc (by decide)

/-- A line that shows a text begins no report. -/
theorem not_mem_detail {start line : String} {f : Failure} (hstart : start.toList[0]? = some ' ')
    (hline : ¬ Unreported line) : line ∉ detail start f := by
  rw [detail]
  split
  · rw [List.mem_singleton]
    rintro rfl
    exact hline (unreported_of_start hstart (by decide))
  · exact List.not_mem_nil

theorem getElem?_importDetail (f : Failure) :
    ("  " ++ f.kind.name ++ ": ").toList[0]? = some ' ' :=
  getElem?_of_start (getElem?_of_start rfl)

theorem notFound_mem_report {target : String} {f : Failure} :
    notFound target ∈ report target f ↔ f.isA .missingFile = true := by
  have hdetail {start : String} (hstart : start.toList[0]? = some ' ') :
      notFound target ∉ detail start f := not_mem_detail hstart (not_unreported_notFound target)
  rw [report]
  split
  · rename_i h
    simp [h]
  · rename_i h
    refine iff_of_false ?_ h
    split
    · simp [(cannotImport_ne_notFound target target).symm, hdetail (getElem?_importDetail f)]
    · split
      · have hblank : notFound target ∉ detail "  " f := hdetail rfl
        simp [(invalid_ne_notFound target).symm, hblank]
      · simp

theorem cannotImport_mem_report {target : String} {f : Failure} :
    cannotImport target ∈ report target f ↔
      f.isA .importing = true ∧ f.isA .missingFile = false := by
  have hdetail : cannotImport target ∉ detail "  " f :=
    not_mem_detail rfl (not_unreported_cannotImport target)
  rw [report]
  split
  · rename_i h
    simp [cannotImport_ne_notFound, h]
  · rename_i h
    split
    · rename_i himporting
      simp [himporting, h]
    · rename_i himporting
      refine iff_of_false ?_ fun hboth => himporting hboth.1
      split
      · simp [(invalid_ne_cannotImport target).symm, hdetail]
      · simp

theorem notFound_not_mem_of_isInner {target : String} {f : Failure} (h : f.IsInner) :
    notFound target ∉ report target f := by
  rw [notFound_mem_report, h.missingFile]
  exact Bool.false_ne_true

theorem cannotImport_not_mem_of_isInner {target : String} {f : Failure} (h : f.IsInner) :
    cannotImport target ∉ report target f := by
  rw [cannotImport_mem_report, h.importing]
  rintro ⟨⟨⟩, -⟩

/-- A report prints its lines, as far as the failure has a text for them. -/
theorem reportFailure_run {α : Type} (target : String) (f : Failure) (t : Trace) :
    (reportFailure target f t : Except Failure α × Trace) =
      (.error (afterReport f), { t with printed := t.printed ++ report target f }) := by
  have hpair (first : String) (more : List String) :
      t.printed ++ first :: more = t.printed ++ [first] ++ more := by
    rw [List.append_assoc, List.singleton_append]
  rw [reportFailure, report, afterReport]
  split
  · rfl
  · split
    · rw [hpair, afterText, detail]
      cases htext : f.message with
      | ok text => rfl
      | error g =>
        rw [List.append_nil]
        rfl
    · split
      · rw [hpair, afterText, detail]
        cases htext : f.message with
        | ok text => rfl
        | error g =>
          rw [List.append_nil]
          rfl
      · rw [List.append_nil]
        rfl

/-- A guarded operation that prints no report of its own prints that of its failure. -/
theorem printed_guarded_iff {α : Type} {target line : String} {q : Failure → Prop} {x : Session α}
    (hx : Confined Unreported q x) (hline : ¬ Unreported line) (t : Trace) :
    Printed line (guarded target x) t ↔
      ∃ f, (x t).1 = .error f ∧ line ∈ report target f := by
  obtain ⟨⟨lines, hlines, hkind⟩, -⟩ := hx t
  match hrun : x t with
  | (.ok a, t₁) =>
    rw [hrun] at hlines
    have hsame : (guarded target x t).2.printed = t.printed ++ lines := by
      rw [guarded_run_ok target hrun, hlines]
    rw [printed_iff_of_eq hsame]
    exact iff_of_false (fun hmem => hline (hkind line hmem)) (by rintro ⟨f, ⟨⟩, -⟩)
  | (.error f, t₁) =>
    rw [hrun] at hlines
    have hboth : (guarded target x t).2.printed = t.printed ++ (lines ++ report target f) := by
      rw [guarded_run_error target hrun, reportFailure_run, hlines, List.append_assoc]
    rw [printed_iff_of_eq hboth, List.mem_append, or_iff_right fun hmem => hline (hkind line hmem)]
    constructor
    · intro hmem
      exact ⟨f, rfl, hmem⟩
    · rintro ⟨g, ⟨⟩, hmem⟩
      exact hmem

theorem confined_reportFailure {α : Type} (target : String) (f : Failure) :
    Confined (fun _ => True) Failure.IsAny (reportFailure target f : Session α) := by
  intro t
  rw [reportFailure_run]
  exact ⟨⟨report target f, rfl, fun _ _ => trivial⟩, fun _ _ => trivial⟩

theorem confined_guarded {α : Type} {p : String → Prop} {q : Failure → Prop} {x : Session α}
    (target : String) (hx : Confined p q x) :
    Confined (fun _ => True) Failure.IsAny (guarded target x) := by
  refine (hx.mono (fun _ _ => trivial) fun _ => id).attempt.bind fun outcome => ?_
  cases outcome with
  | ok a => exact confined_pure a
  | error f => exact confined_reportFailure target f

/-! ## What the commands print themselves -/

section Printing

variable {q : Failure → Prop} (defaults : Config)

theorem confined_printBelow (lines : List String) : Confined Unreported q (printBelow lines) := by
  refine (confined_forEach fun line _ => confined_print (unreported_indented line)).bind ?_
  exact fun _ => confined_pure ()

theorem confined_printPaths (hq : ∀ e, q (.fault e)) (paths : List Path) :
    Confined Unreported q (printPaths defaults paths) :=
  (confined_ofFault _ hq).bind fun _ => confined_printBelow _

theorem unreported_heading (title : String) (m n : Nat) : Unreported (heading title m n) := by
  simp only [heading, String.append_assoc]
  exact unreported_of_start (c := '\n') rfl (by decide)

theorem unreported_totals (s : Summary) (duration : Number.Binary64) :
    Unreported (totals s duration) := by
  simp only [totals, String.append_assoc]
  exact unreported_of_start (c := '\n') rfl (by decide)

theorem unreported_noScenarios (target : String) :
    Unreported ("No scenarios found in " ++ target) :=
  unreported_of_start (c := 'N') rfl (by decide)

/-- A table begins with a blank. -/
theorem unreported_of_format {headers : List String} {rows : List (List String)} {minWidth : Int}
    {text : String} (h : Text.Table.format headers rows minWidth = .ok text) :
    Unreported text := by
  rw [Text.Table.format] at h
  split at h
  · cases h
    rw [Unreported]
    decide
  · obtain ⟨widths, -, h⟩ := bind_eq_ok_iff.mp h
    obtain ⟨head, hhead, h⟩ := bind_eq_ok_iff.mp h
    obtain ⟨body, -, h⟩ := bind_eq_ok_iff.mp h
    cases h
    obtain ⟨cells, -, rfl⟩ := map_eq_ok_iff.mp hhead
    have hstart : (Text.Table.margin ++ " | ".intercalate cells).toList[0]? = some ' ' :=
      getElem?_of_start rfl
    obtain ⟨hlength, -⟩ := List.getElem?_eq_some_iff.mp hstart
    rw [Unreported, String.toList_intercalate, List.map_cons, List.map_cons,
      List.intercalate_cons_cons, List.append_assoc, List.getElem?_append_left hlength, hstart]
    decide

theorem confined_printResults (hq : ∀ e, q (.fault e)) (s : Summary) :
    Confined Unreported q (printResults defaults s) := by
  refine (confined_ofFault _ hq).bind fun rows => ?_
  split
  · show Confined Unreported q
      (Session.ofFault (Text.Table.format headers rows Text.Table.defaultWidth) >>= Session.print)
    cases hformat : Text.Table.format headers rows Text.Table.defaultWidth with
    | error e => exact confined_fail (hq e)
    | ok text => exact confined_print (unreported_of_format hformat)
  · exact confined_pure ()

end Printing

end Command

end CaseGrid
