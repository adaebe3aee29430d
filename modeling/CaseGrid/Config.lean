/-
  The settings of an expansion: the text between the segments of a name, and the greatest
  number of cases that one scenario may give.
-/

namespace CaseGrid

/-- Limits and formatting of an expansion. -/
structure Config where
  separator : String := "::"
  maxCases : Option Int := none
  deriving DecidableEq, Repr, Inhabited

/-- Whether so many cases are within the limit. -/
def Config.fits (config : Config) (count : Nat) : Bool :=
  match config.maxCases with
  | none => true
  | some limit => (count : Int) ≤ limit

theorem Config.fits_iff {config : Config} {count : Nat} :
    config.fits count = true ↔ ∀ limit ∈ config.maxCases, (count : Int) ≤ limit := by
  unfold Config.fits
  split <;> simp_all

end CaseGrid
