import CaseGrid.Text.Split
import CaseGrid.Value.Items

/-
  Paths of cases: the title of a scenario, then the name of each variable followed by the name
  of its chosen value. A path is written with a separator between its segments and read back by
  cutting at the separator; the empty text stands for the empty path. Both go by code points,
  since a title may hold half of a surrogate pair.
-/

namespace CaseGrid

open CaseGrid.Text (Points glue pieces)

/-- A path; paths made by expansion hold texts only. -/
abbrev Path := List Value

namespace Path

/-- The code points of the segments, counted from `position`; a segment that is no text is a
fault. -/
def pointsFrom (position : Nat) : Path → Except Fault (List Points)
  | [] => .ok []
  | segment :: rest =>
    match segment.points? with
    | some ps => (pointsFrom (position + 1) rest).map (ps :: ·)
    | none => .error (.segmentNotText position segment.kindName)

/-- The code points of the segments. -/
def points (path : Path) : Except Fault (List Points) :=
  pointsFrom 0 path

theorem pointsFrom_eq_ok_iff {position : Nat} {path : Path} {pss : List Points} :
    pointsFrom position path = .ok pss ↔ path.map Value.points? = pss.map some := by
  induction path generalizing position pss with
  | nil => cases pss <;> simp [pointsFrom]
  | cons v vs ih =>
    unfold pointsFrom
    match hv : v.points? with
    | none => cases pss <;> simp [hv]
    | some ps =>
      match hr : pointsFrom (position + 1) vs with
      | .ok rest =>
        have h := ih.mp hr
        cases pss with
        | nil => simp [Except.map]
        | cons qs qss =>
          have hinj : rest.map some = qss.map some ↔ rest = qss :=
            List.map_inj_right fun a b hab => Option.some.inj hab
          simp [Except.map, hv, h, hinj]
      | .error e =>
        cases pss with
        | nil => simp [Except.map]
        | cons qs qss =>
          have h : ¬ vs.map Value.points? = qss.map some := by
            intro hqs
            rw [ih.mpr hqs] at hr
            cases hr
          simp [Except.map, h]

/-- A path has code points just if each of its segments has. -/
theorem points_eq_ok_iff {path : Path} {pss : List Points} :
    points path = .ok pss ↔ path.map Value.points? = pss.map some :=
  pointsFrom_eq_ok_iff

theorem points_of_texts {path : Path} (h : ∀ v ∈ path, ∃ ps, v.points? = some ps) :
    ∃ pss, path.points = .ok pss := by
  induction path with
  | nil => exact ⟨[], rfl⟩
  | cons v path ih =>
    obtain ⟨ps, hps⟩ := h v (by simp)
    obtain ⟨pss, hpss⟩ := ih fun w hw => h w (by simp [hw])
    refine ⟨ps :: pss, points_eq_ok_iff.mpr ?_⟩
    rw [List.map_cons, List.map_cons, hps, points_eq_ok_iff.mp hpss]

/-- The code points of a written path. -/
def write (separator : String) (path : Path) : Except Fault Points :=
  (points path).map (glue (Points.ofString separator))

theorem write_eq_ok {path : Path} {pss : List Points} (h : path.points = .ok pss)
    (separator : String) :
    path.write separator = .ok (glue (Points.ofString separator) pss) := by
  rw [write, h]
  rfl

/-- The written form of a path as it is shown. -/
def format (separator : String) (path : Path) : Except Fault String :=
  (write separator path).map Points.shown

theorem format_of_texts {path : Path} (h : ∀ v ∈ path, ∃ ps, v.points? = some ps)
    (separator : String) : ∃ name, path.format separator = .ok name := by
  obtain ⟨pss, hpss⟩ := points_of_texts h
  rw [format, write_eq_ok hpss]
  exact ⟨_, rfl⟩

/-- The code points of the segments of a written path. -/
def read (separator : String) (written : Points) : Except Fault (List Points) :=
  if written = [] then .ok []
  else if separator = "" then .error .emptySeparator
  else .ok (pieces (Points.ofString separator) written)

/-- The path that was written. -/
def ofWritten (separator : String) (written : Points) : Except Fault Path :=
  (read separator written).map fun pss => pss.map fun ps => .scalar (.ofPoints ps)

/-- The segments of a written path that is a text. -/
def parse (separator text : String) : Except Fault (List String) :=
  (ofWritten separator (.ofString text)).map fun path => path.map Value.label

/-- A path followed by a variable and the name of its chosen value. -/
def extend (path : Path) (variableName valueName : Value) : Path :=
  path ++ [variableName, valueName]

/-- The written form of any value that has items. -/
def formatValue (separator : String) (v : Value) : Except Fault String :=
  match v.items? with
  | some segments => format separator segments
  | none => .error .notJoinable

/-- The pairs of variable and value name after the title; an odd last segment is left out. -/
def choices : Path → List (Value × Value)
  | [] => []
  | _ :: rest => pairs rest
where
  /-- The segments two by two. -/
  pairs : List Value → List (Value × Value)
    | v :: c :: rest => (v, c) :: pairs rest
    | _ => []

end Path

end CaseGrid
