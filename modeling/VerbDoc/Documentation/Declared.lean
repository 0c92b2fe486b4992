import VerbDoc.Documentation.Basic
import VerbDoc.Value.Checked
import VerbDoc.Value.Display
import VerbDoc.Value.Reading

/-!
# Declared documentation

Documentation can be declared as tags with values instead of being written as a text. Four tags
have a declared type, all others may hold any value, which is displayed if it can be. Main
statement: a tag is left out exactly when its value is null, the empty text or the empty list.
-/
namespace VerbDoc

def TagValue.toValue : TagValue → Value
  | .single text => .text text
  | .many texts => .list (texts.map .text)

def Value.asOptionalTag? : Value → Option (Option TagValue)
  | .null => some none
  | .text t => some (some (.single t))
  | v => (Value.asTexts? v).map fun texts => some (.many texts)

/-- The declared documentation of a method. -/
structure Declaration where
  uri : Option Text
  description : Option Text
  params : Option TagValue
  response : Option TagValue
  extras : Fields

namespace Declaration

def declaredNames : List Text :=
  ["uri", "description", "params", "response"].map String.toList

def extraTags (tags : Fields) : Fields := declaredNames.foldl OrderedMap.erase tags

def ofTags (tags : Fields) : Except Fault Declaration :=
  Checked.toExcept <|
    Declaration.mk
      <$> tags.check "uri".toList Value.asOptionalText? none
      <*> tags.check "description".toList Value.asOptionalText? none
      <*> tags.check "params".toList Value.asOptionalTag? none
      <*> tags.check "response".toList Value.asOptionalTag? none
      <*> .valid (extraTags tags)

/-- An absent text or tag is null. -/
def optional {α : Type} (toValue : α → Value) : Option α → Value
  | none => .null
  | some a => toValue a

/-- All tags with their values: first the declared ones, then the others. -/
def values (d : Declaration) : List (Text × Value) :=
  declaredNames.zip
    [optional .text d.uri, optional .text d.description,
     optional TagValue.toValue d.params, optional TagValue.toValue d.response] ++
    d.extras.entries

/-- What is documented of a value. A list gives a text for each item. -/
def documented? : Value → Option TagValue
  | .null | .text [] | .list [] => none
  | .list items => some (.many (items.map Value.display))
  | v => some (.single v.display)

def displayed (d : Declaration) : Documentation :=
  OrderedMap.ofList <| d.values.filterMap fun e => (documented? e.2).map fun tag => (e.1, tag)

def isDisplayable (d : Declaration) : Bool := d.values.all fun e => e.2.isDisplayable

/-- The documentation that is declared. There is none where a value among the tags cannot be
displayed. -/
def documentation (d : Declaration) : Except Fault Documentation :=
  if d.isDisplayable then .ok d.displayed else .error (.rejected Value.overlongMessage)

end Declaration
end VerbDoc
