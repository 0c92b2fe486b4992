import VerbDoc.OrderedMap.Lemmas
import VerbDoc.Text.Case

/-!
# Documentation of a verb

Documentation maps tag keys to values. A tag that occurs once has a single text, one that is
repeated has several. `TagValue.elements` is the view in which both are lists of texts.
-/
namespace VerbDoc

/-- The value of a tag. -/
inductive TagValue where
  | single (text : Text)
  | many (texts : List Text)
  deriving DecidableEq, Repr

/-- Tag values by tag key, in the order in which the keys first occur. -/
abbrev Documentation := OrderedMap Text TagValue

def TagValue.elements : TagValue → List Text
  | .single text => [text]
  | .many texts => texts

/-- The non-empty text that opens a tag. -/
structure Marker where
  text : Text
  ne_nil : text ≠ []
  deriving DecidableEq

namespace Marker

instance : Repr Marker where
  reprPrec m n := reprPrec m.text n

def ofText? : Text → Option Marker
  | [] => none
  | c :: rest => some ⟨c :: rest, List.cons_ne_nil c rest⟩

/-- The marker in use where none is configured. -/
def standard : Marker := ⟨"@api".toList, by decide⟩

theorem ofText?_text (m : Marker) : ofText? m.text = some m := by
  obtain ⟨t, h⟩ := m
  cases t with
  | nil => exact absurd rfl h
  | cons c rest => rfl

end Marker
end VerbDoc
