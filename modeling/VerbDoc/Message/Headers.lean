import VerbDoc.Fault
import VerbDoc.Text.Case
import VerbDoc.Value.Reading

/-!
# Header fields

A header has a name, which is kept as it was first spelled, and a list of values, which need not
be texts. Names are compared in lower case. Where several stored names agree in lower case, the
first one answers. Main statement: a look-up depends on the lower case of the name alone.
-/
namespace VerbDoc

/-- Header values by name, in the order of insertion. -/
abbrev Headers := OrderedMap Text (List Value)

namespace Headers

/-- The name of a header is a text, which has a lower case. -/
def nameOf : Value → Except Fault Text
  | .text name => .ok name
  | _ => .error .missingAttribute

def stored? (headers : Headers) (name : Text) : Option Text :=
  headers.keys.find? fun key => Text.lower key == Text.lower name

def has (headers : Headers) (name : Text) : Bool := (headers.stored? name).isSome

def values (headers : Headers) (name : Text) : List Value :=
  match headers.stored? name with
  | some key => (headers.get? key).getD []
  | none => []

/-- The values of a header in one line. There is none unless all of them are texts. -/
def line (headers : Headers) (name : Text) : Except Fault Text :=
  match (headers.values name).mapM Value.asText? with
  | some texts => .ok (Text.listed texts)
  | none => .error .wrongType

/-- The headers with `name` set to the one value: the stored entry goes and a new one, spelled as
given, comes last. -/
def replace (headers : Headers) (name : Text) (value : Value) : Headers :=
  let others :=
    match headers.stored? name with
    | some key => headers.erase key
    | none => headers
  others.insert name [value]

/-- The headers with one more value for `name`: added to the stored entry, which keeps its
spelling and place, or as a new entry. -/
def add (headers : Headers) (name : Text) (value : Value) : Headers :=
  match headers.stored? name with
  | some key => headers.insert key ((headers.get? key).getD [] ++ [value])
  | none => headers.insert name [value]

theorem stored?_congr (headers : Headers) {a b : Text} (h : Text.lower a = Text.lower b) :
    headers.stored? a = headers.stored? b := by
  unfold stored?
  rw [h]

theorem values_congr (headers : Headers) {a b : Text} (h : Text.lower a = Text.lower b) :
    headers.values a = headers.values b := by
  unfold values
  rw [stored?_congr headers h]

theorem mem_keys_of_stored? {headers : Headers} {name key : Text}
    (h : headers.stored? name = some key) : key ∈ headers.keys :=
  List.mem_of_find?_eq_some h

theorem lower_of_stored? {headers : Headers} {name key : Text}
    (h : headers.stored? name = some key) : Text.lower key = Text.lower name := by
  simpa using List.find?_some h

end Headers
end VerbDoc
