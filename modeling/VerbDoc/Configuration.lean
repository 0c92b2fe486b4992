import VerbDoc.Documentation.Basic
import VerbDoc.Record
import VerbDoc.Settings.Basic
import VerbDoc.Value.Order

/-!
# The configuration of an endpoint

A configuration says which verbs an endpoint may expose, which media types it advertises, and
the marker of documentation tags. It is made from settings or from fields of its own. It does not
change, but an assignment may reach behind its fields, and what it then holds is shown as it is.
Main statement: settings make a configuration exactly when their marker is not blank.
-/
namespace VerbDoc

/-- What an endpoint is configured with. The verbs are a set; the marker may be empty, which
only matters once a documentation text is read. -/
structure Configuration where
  verbs : List Text
  contentTypes : List Text
  acceptTypes : List Text
  marker : Text
  deriving DecidableEq, Repr

namespace Configuration

def standard : Configuration where
  verbs := Text.sortedSet (Text.commaItems Settings.standard.httpVerbs)
  contentTypes := ["application/json".toList]
  acceptTypes := ["application/json".toList]
  marker := Marker.standard.text

def ofFields (fields : Fields) : Except Fault Configuration :=
  Checked.toExcept <|
    Configuration.mk
      <$> fields.check "valid_http_verbs".toList
        (fun v => (Value.asTexts? v).map Text.sortedSet) standard.verbs
      <*> fields.check "content_types".toList Value.asTexts? standard.contentTypes
      <*> fields.check "accept_types".toList Value.asTexts? standard.acceptTypes
      <*> fields.check "annotation_marker".toList Value.asText? standard.marker

def ofValue : Value → Except Fault Configuration
  | .object members => ofFields (.ofList members)
  | _ => .error .wrongType

def blankMarkerReport (marker : Text) : Report where
  message := .text "Annotation marker must not be empty".toList
  component := .text "config".toList
  details := OrderedMap.empty.insert (.text Setting.annotationMarker.name) (.text marker)

def ofSettings (s : Settings) : Except Fault Configuration :=
  if (Text.trim s.annotationMarker).isEmpty then
    .error (.misconfigured (blankMarkerReport s.annotationMarker))
  else
    .ok {
      verbs := Text.sortedSet (Text.commaItems s.httpVerbs)
      contentTypes := Text.commaItems s.contentTypes
      acceptTypes := Text.commaItems s.acceptTypes
      marker := Text.trim s.annotationMarker }

theorem exists_ofSettings_iff (s : Settings) :
    (∃ c, ofSettings s = .ok c) ↔ Text.trim s.annotationMarker ≠ [] := by
  unfold ofSettings
  split <;> simp_all

/-! ## Fields that are shown -/

def fieldNames : List Text :=
  ["valid_http_verbs", "content_types", "accept_types", "annotation_marker"].map String.toList

def fieldValues (c : Configuration) : List Value :=
  [.list (c.verbs.map .text), .list (c.contentTypes.map .text), .list (c.acceptTypes.map .text),
   .text c.marker]

def record (c : Configuration) : Record := .ofFields (.ofList (fieldNames.zip c.fieldValues))

def field (r : Record) (name : Text) : Except Fault (Text × Value) := do
  let v ← r.get name
  if fieldNames.head? == some name then return (name, .list (← v.sorted)) else return (name, v)

def fields (r : Record) : Except Fault (List (Text × Value)) := fieldNames.mapM (field r)

end Configuration
end VerbDoc
