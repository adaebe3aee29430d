import CaseGrid.Text.Quoted

/-
  Texts as code points. An escape may name half of a surrogate pair, which is no character, and
  two halves side by side stay two. A sequence of code points is a text unless it holds a half.
-/

namespace CaseGrid.Text

/-- Code points in order, halves of surrogate pairs among them. -/
abbrev Points := List Nat

/-- Whether a code point is half of a surrogate pair. -/
def isHalf (n : Nat) : Bool := 0xD800 ≤ n && n ≤ 0xDFFF

theorem isHalf_toNat (c : Char) : isHalf c.toNat = false := by
  have h : c.toNat < 0xD800 ∨ 0xDFFF < c.toNat ∧ c.toNat < 0x110000 := c.valid
  simp only [isHalf, Bool.and_eq_false_iff, decide_eq_false_iff_not]
  omega

namespace Points

/-- The code points of characters. -/
def ofChars (cs : List Char) : Points := cs.map Char.toNat

/-- The code points of a text. -/
def ofString (s : String) : Points := ofChars s.toList

/-- Whether some half of a surrogate pair is there. -/
def isBroken (ps : Points) : Bool := ps.any isHalf

/-- The characters, with a question mark for each half of a pair. -/
def chars (ps : Points) : List Char :=
  ps.map fun n => if isHalf n then '?' else Char.ofNat n

theorem isBroken_ofChars (cs : List Char) : (ofChars cs).isBroken = false := by
  induction cs with
  | nil => rfl
  | cons c cs ih =>
    simp only [isBroken, ofChars, List.map_cons, List.any_cons, isHalf_toNat, Bool.false_or]
    exact ih

theorem chars_ofChars (cs : List Char) : (ofChars cs).chars = cs := by
  induction cs with
  | nil => rfl
  | cons c cs ih =>
    have h : chars (ofChars (c :: cs)) = c :: chars (ofChars cs) := by
      simp [chars, ofChars, isHalf_toNat]
    rw [h, ih]

/-- One code point inside a literal enclosed by `quote`. -/
def quotedPoint (quote : Char) (n : Nat) : List Char :=
  if isHalf n then numbered n else quotedChar quote (Char.ofNat n)

/-- The literal of code points: that of a text, with halves of pairs by their numbers. -/
def literal (ps : Points) : String :=
  let quote := quoteFor ps.chars
  String.ofList (quote :: (ps.flatMap (quotedPoint quote) ++ [quote]))

/-- The code points without quotes, halves of pairs by their numbers. -/
def shown (ps : Points) : String :=
  String.ofList (ps.flatMap fun n => if isHalf n then numbered n else [Char.ofNat n])

/-- The code points of a text are shown as the text. -/
theorem shown_ofString (s : String) : (ofString s).shown = s := by
  have h : ((ofChars s.toList).flatMap fun n =>
      if isHalf n then numbered n else [Char.ofNat n]) = s.toList := by
    rw [ofChars, List.flatMap_map]
    simp [isHalf_toNat]
  rw [shown, ofString, h, String.ofList_toList]

/-- Texts with the same code points are the same. -/
theorem ofString_inj {s t : String} : ofString s = ofString t ↔ s = t := by
  constructor
  · intro h
    rw [← shown_ofString s, h, shown_ofString]
  · rintro rfl
    rfl

theorem ofString_eq_nil {s : String} : ofString s = [] ↔ s = "" :=
  ofString_inj (t := "")

example : literal [0x61, 0xD83D, 0xDE00] = "'a\\ud83d\\ude00'" := by decide +kernel
example : literal [0x27, 0xDC00] = "\"'\\udc00\"" := by decide +kernel

end Points

/-- Code points that are no text. -/
@[ext] structure Broken where
  points : Points
  isBroken : points.isBroken = true
  deriving DecidableEq, Repr

/-- Code points that are no text are none behind others either. -/
def Broken.after (ps : Points) (b : Broken) : Broken :=
  ⟨ps ++ b.points, by rw [Points.isBroken, List.any_append, Bool.or_eq_true]; exact .inr b.isBroken⟩

end CaseGrid.Text
