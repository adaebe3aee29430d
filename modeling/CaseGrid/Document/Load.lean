import CaseGrid.Document.Basic
import CaseGrid.Session
import CaseGrid.Yaml.Document

/-
  Loading scenario documents from YAML texts. A text that is no YAML, data that is no mapping,
  and data that does not keep the schema are reported as malformed scenarios and written to the
  log.
-/

namespace CaseGrid

/-- The data of a YAML document as a source of documents. -/
def Yaml.Data.source (d : Yaml.Data) : Source Yaml.Piece :=
  ⟨d.shape, fun p => (d.unfold p).written⟩

/-- Values as a source of documents. -/
def Value.source : Source Value :=
  ⟨Value.shape, Value.written⟩

namespace Document

/-- The name of the log of loading. -/
def logger : String := "combitest.loader"

/-- Ends with a malformed scenario, its log line before it. -/
def refuse {α : Type} (line : String) (e : SpecificationError) : Session α := do
  Session.log Log.error logger line
  Session.fail (.specification e)

/-- The failure for a text that is no YAML. -/
def notYaml {α : Type} (stage : Yaml.Stage) (message : String) : Session α :=
  refuse ("Scenario YAML could not be parsed: " ++ message)
    (.make ("invalid YAML: " ++ message) .null .null (some stage.kindName))

/-- The failure for trouble with a text. -/
def ofTrouble {α : Type} (text : List Char) (t : Yaml.Trouble) : Session α :=
  match t with
  | .failed why message => Session.fail (.other why.kind message)
  | .character _ _ => notYaml .characters (t.message text)
  | .found stage _ _ _ _ => notYaml stage (t.message text)

/-- The title of a document that does not keep the schema, if it is a text. -/
def titleIfText {α : Type} (source : Source α) (a : α) : Value :=
  match (Schema.field? (entriesOf source a) "title").map source.shape with
  | some (.scalar s) => if (Value.scalar s).isTextual then .scalar s else .null
  | _ => .null

/-- The failure for data that does not keep the schema. -/
def notScenario {α β : Type} (source : Source α) (a : α) (r : Report) : Session β :=
  let place := r.location ++ ": " ++ r.message
  refuse ("Scenario YAML failed validation at " ++ place)
    (.make ("invalid scenario at " ++ place) (titleIfText source a) .null (some "ValidationError"))

/-- The failure for data that is no mapping. -/
def notMapping {α : Type} : Session α :=
  refuse "Scenario YAML must map to a dictionary at top level"
    (.make "the provided YAML must map to a dictionary at top level" .null .null none)

/-- The document that data describes. -/
def read {α : Type} (source : Source α) (a : α) : Session (Document α) :=
  match source.shape a with
  | .map _ => do
    match ← Session.ofFault (schema.check source a) with
    | some r => notScenario source a r
    | none => Session.ofFault (ofData source a)
  | _ => notMapping

/-- The document of a YAML text. -/
def load (text : String) : Session (Document Value) :=
  match Yaml.Data.ofText text.toList with
  | .error t => ofTrouble text.toList t
  | .ok none => notMapping
  | .ok (some data) => do
    let d ← read data.source (.node data.root)
    return d.map data.unfold

end Document

/-- The scenario of a YAML text and two steps. -/
def Scenario.ofYaml (text : String) (compute check : Step) : Session Scenario := do
  let d ← Document.load text
  return d.scenario compute check

end CaseGrid
