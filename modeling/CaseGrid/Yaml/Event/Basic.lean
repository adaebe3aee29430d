import CaseGrid.Text.Points
import CaseGrid.Yaml.Mark

/-
  Events: the structure of a YAML text as a flat sequence, with collections opened and closed.
-/

namespace CaseGrid.Yaml

/-- Whether the tag of a scalar is to be found from its text, or is that of texts. -/
structure Implicit where
  plain : Bool
  quoted : Bool
  deriving DecidableEq, Repr

/-- What an event is. -/
inductive Event.Kind where
  | streamStart
  | streamEnd
  | documentStart
  | documentEnd
  | reference (name : String)
  | scalar (anchor tag : Option String) (implicit : Implicit) (text : Text.Points)
  | sequenceStart (anchor tag : Option String)
  | sequenceEnd
  | mappingStart (anchor tag : Option String)
  | mappingEnd
  deriving DecidableEq, Repr, Inhabited

/-- An event and where it begins. -/
structure Event where
  kind : Event.Kind
  start : Mark
  deriving Repr, Inhabited

/-- The anchor of an event that opens a node. -/
def Event.anchor? (e : Event) : Option String :=
  match e.kind with
  | .scalar anchor _ _ _ => anchor
  | .sequenceStart anchor _ => anchor
  | .mappingStart anchor _ => anchor
  | _ => none

end CaseGrid.Yaml
