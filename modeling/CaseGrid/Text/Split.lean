/-
  Cutting a sequence at a separator and gluing pieces with one; texts are cut as sequences of
  characters. The cuts are the leftmost occurrences of the separator that do not overlap, so a
  separator that overlaps itself is found as early as possible. Gluing always undoes cutting.
-/

namespace CaseGrid.Text

section Sequences

variable {α : Type} [BEq α]

/--
The pieces between the occurrences of a separator. `skip` counts the items of an occurrence that
are still to be passed over, `piece` holds the current piece backwards.
-/
def piecesFrom (separator : List α) : Nat → List α → List α → List (List α)
  | _, piece, [] => [piece.reverse]
  | skip + 1, piece, _ :: cs => piecesFrom separator skip piece cs
  | 0, piece, c :: cs =>
    if separator.isPrefixOf (c :: cs) then
      piece.reverse :: piecesFrom separator (separator.length - 1) [] cs
    else
      piecesFrom separator 0 (c :: piece) cs

/-- The pieces of a sequence between the occurrences of a separator that is not empty. -/
def pieces (separator cs : List α) : List (List α) :=
  piecesFrom separator 0 [] cs

/-- The pieces with the separator between them. -/
def glue {α : Type} (separator : List α) : List (List α) → List α
  | [] => []
  | [piece] => piece
  | piece :: rest => piece ++ separator ++ glue separator rest

/-- Whether `part` occurs somewhere in a sequence. -/
def occursIn (part : List α) : List α → Bool
  | [] => part.isEmpty
  | c :: cs => part.isPrefixOf (c :: cs) || occursIn part cs

/-- A sequence has at least one piece. -/
theorem piecesFrom_ne_nil (separator : List α) (skip : Nat) (piece cs : List α) :
    piecesFrom separator skip piece cs ≠ [] := by
  induction cs generalizing skip piece with
  | nil => cases skip <;> simp [piecesFrom]
  | cons c cs ih =>
    cases skip with
    | succ skip => exact ih skip piece
    | zero =>
      unfold piecesFrom
      split
      · simp
      · exact ih 0 (c :: piece)

theorem glue_cons {α : Type} (separator piece : List α) {ps : List (List α)} (h : ps ≠ []) :
    glue separator (piece :: ps) = piece ++ separator ++ glue separator ps := by
  cases ps with
  | nil => exact absurd rfl h
  | cons q qs => rfl

variable [LawfulBEq α]

/-- While `skip` items are still to be passed over, they count as glued already. -/
theorem glue_piecesFrom (separator : List α) (hs : separator ≠ []) (skip : Nat)
    (piece cs : List α) :
    glue separator (piecesFrom separator skip piece cs) = piece.reverse ++ cs.drop skip := by
  induction cs generalizing skip piece with
  | nil => cases skip <;> simp [piecesFrom, glue]
  | cons c cs ih =>
    cases skip with
    | succ skip =>
      rw [piecesFrom, ih skip piece, List.drop_succ_cons]
    | zero =>
      unfold piecesFrom
      split
      · rename_i h
        obtain ⟨rest, hrest⟩ := List.isPrefixOf_iff_prefix.mp h
        obtain ⟨s, ss, rfl⟩ := List.exists_cons_of_ne_nil hs
        rw [glue_cons _ _ (piecesFrom_ne_nil _ _ _ _), ih]
        have htail : ss ++ rest = cs := (List.cons.inj hrest).2
        have hhead : s = c := (List.cons.inj hrest).1
        subst hhead htail
        simp
      · rw [ih 0 (c :: piece)]
        simp

/-- Gluing undoes cutting. -/
theorem glue_pieces {separator : List α} (hs : separator ≠ []) (cs : List α) :
    glue separator (pieces separator cs) = cs := by
  simpa [pieces] using glue_piecesFrom separator hs 0 [] cs

theorem occursIn_iff {part cs : List α} : occursIn part cs = true ↔ part <:+: cs := by
  induction cs with
  | nil => simp [occursIn, List.isEmpty_iff]
  | cons c cs ih =>
    rw [occursIn, Bool.or_eq_true, List.isPrefixOf_iff_prefix, ih, List.infix_cons_iff]

end Sequences

/-- The pieces of a text between the occurrences of a separator that is not empty. -/
def split (separator text : String) : List String :=
  (pieces separator.toList text.toList).map String.ofList

/-- The pieces with the separator between them. -/
def join (separator : String) (ps : List String) : String :=
  String.ofList (glue separator.toList (ps.map String.toList))

/-- Whether a text begins with another one. -/
def begins (start text : String) : Bool :=
  start.toList.isPrefixOf text.toList

/-- Whether `text` has `part` as a contiguous part. -/
def holds (text part : String) : Bool :=
  occursIn part.toList text.toList

theorem begins_iff {start text : String} :
    begins start text = true ↔ start.toList <+: text.toList :=
  List.isPrefixOf_iff_prefix

example : split "::" "a:::b" = ["a", ":b"] := by decide +kernel
example : split "::" "::" = ["", ""] := by decide +kernel
example : join "::" ["a", "b", ""] = "a::b::" := by decide +kernel
example : holds "a::b" "::" = true := by decide +kernel

end CaseGrid.Text
