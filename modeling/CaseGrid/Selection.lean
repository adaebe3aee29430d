import CaseGrid.Run

/-
  Selection of cases by path. A pattern is a written path or the beginning of one that ends
  with a segment; a case is kept if some pattern that is not empty addresses it.
-/

namespace CaseGrid

namespace Selection

/-- Whether a path begins with the segments of a pattern that has some. -/
def addresses (pattern : List String) (path : Path) : Bool :=
  !pattern.isEmpty && Value.alikeItems (path.take pattern.length) (pattern.map Value.text)

/-- The cases that some pattern addresses, in order. -/
def keep (patterns : List (List String)) (cases : List Case) : List Case :=
  cases.filter fun c => patterns.any fun p => addresses p c.path

/-- The segments of written patterns. -/
def parse (separator : String) (patterns : List String) : Except Fault (List (List String)) :=
  patterns.mapM (Path.parse separator)

/-- The cases that written patterns select. -/
def select (separator : String) (patterns : List String) (cases : List Case) :
    Session (List Case) := do
  let parsed ← Session.ofFault (parse separator patterns)
  let kept := keep parsed cases
  Session.log Log.debug Run.logger
    ("Selected " ++ toString kept.length ++ " case(s) for " ++
      ", ".intercalate (parsed.map (Text.join separator)))
  return kept

end Selection

end CaseGrid
