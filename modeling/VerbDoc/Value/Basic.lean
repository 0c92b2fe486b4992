import VerbDoc.OrderedMap.Basic
import VerbDoc.Value.Decimal

/-!
# Values of any shape

What a caller hands in before it has been checked, and what is stored where any value is
allowed: error details, request bodies, extra documentation tags.
-/
namespace VerbDoc

/-- A value of any shape. The members of an object are in order. -/
inductive Value where
  | null
  | bool (b : Bool)
  | int (n : Int)
  | float (x : Floating)
  | text (t : Text)
  | list (items : List Value)
  | object (members : List (Text × Value))
  deriving Repr, Inhabited

abbrev Fields := OrderedMap Text Value

namespace Value

/-- The object with the given members; of two members with one key the later value counts, in
the place of the earlier one. -/
def ofMembers (members : List (Text × Value)) : Value :=
  .object (OrderedMap.ofList members).entries

/-- Whether a value counts as something. Null, false, zero and whatever is empty do not. -/
def isTruthy : Value → Bool
  | .null => false
  | .bool b => b
  | .int n => n != 0
  | .float x => x.whole? != some 0
  | .text t => !t.isEmpty
  | .list items => !items.isEmpty
  | .object members => !members.isEmpty

def typeName : Value → Text
  | .null => "NoneType".toList
  | .bool _ => "bool".toList
  | .int _ => "int".toList
  | .float _ => "float".toList
  | .text _ => "str".toList
  | .list _ => "list".toList
  | .object _ => "dict".toList

/-- The items that a value is made of: those of a list, the characters of a text and the keys of
an object. Other values have none to go through. -/
def items? : Value → Option (List Value)
  | .text t => some (t.map fun c => .text [c])
  | .list items => some items
  | .object members => some (members.map fun m => .text m.1)
  | _ => none

/-- A value names something: it is a text with the name in it, a list with the name for an item, or
an object with the name for a key. -/
def names? (v : Value) (name : Text) : Option Bool :=
  match v with
  | .text t => some (Text.hasPart name t)
  | .list items => some <| items.any fun item =>
    match item with
    | .text t => t == name
    | _ => false
  | .object members => some (members.any fun m => m.1 == name)
  | _ => none

end Value
end VerbDoc
