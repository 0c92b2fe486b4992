import VerbDoc.OrderedMap.Lemmas
import VerbDoc.Value.Basic

/-!
# Labels

What details are listed under: any value that is no collection. Labels that are the same number
are the same label, whatever form they were given in, and a truth value is a number too.
-/
namespace VerbDoc

/-- What an entry may be listed under. -/
inductive Label where
  | null
  | bool (b : Bool)
  | int (n : Int)
  | float (x : Floating)
  | text (t : Text)
  deriving DecidableEq, Repr

namespace Label

/-- The label that a value is. Lists and objects are none. -/
def ofValue? : Value → Option Label
  | .null => some .null
  | .bool b => some (.bool b)
  | .int n => some (.int n)
  | .float x => some (.float x)
  | .text t => some (.text t)
  | .list _ | .object _ => none

def toValue : Label → Value
  | .null => .null
  | .bool b => .bool b
  | .int n => .int n
  | .float x => .float x
  | .text t => .text t

/-- The form of a label that all labels have which are the same: a number is written as a whole
one where it is one. -/
def normal : Label → Label
  | .bool b => .int (if b then 1 else 0)
  | .float x =>
    match x.whole? with
    | some n => .int n
    | none => .float x
  | label => label

/-- Two labels are the same, perhaps in different forms. -/
def same (a b : Label) : Bool := a.normal == b.normal

/-- Entries with `label` given the value `v`: in the form and the place in which it is there
already, else as given and last. -/
def insert (entries : OrderedMap Label Value) (label : Label) (v : Value) :
    OrderedMap Label Value :=
  entries.insert ((entries.keys.find? label.same).getD label) v

def ofList (entries : List (Label × Value)) : OrderedMap Label Value :=
  entries.foldl (fun m e => insert m e.1 e.2) ∅

def ofFields (fields : Fields) : OrderedMap Label Value :=
  .ofList (fields.entries.map fun e => (.text e.1, e.2))

end Label
end VerbDoc
