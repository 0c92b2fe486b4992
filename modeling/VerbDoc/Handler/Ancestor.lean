import VerbDoc.Handler.Member

/-!
# Classes among the ancestors of a handler class

A class has members. Some names have a meaning to the class itself, beyond that of a member.
Such are what it is told where nothing is attached, and the record of the types of its attributes,
which it may begin to keep.
-/
namespace VerbDoc

/-! ## Names with a meaning to the class -/

namespace SpecialName

def creation : Text := "__new__".toList

def derivation : Text := "__init_subclass__".toList

def indexing : Text := "__class_getitem__".toList

def reading : Text := "__getattribute__".toList

def fallback : Text := "__getattr__".toList

def assignment : Text := "__setattr__".toList

/-- What lists the places for attributes that the objects of a class may have. -/
def slots : Text := "__slots__".toList

def attributes : Text := "__dict__".toList

def weakReference : Text := "__weakref__".toList

def objectClass : Text := "__class__".toList

def description : Text := "__doc__".toList

def home : Text := "__module__".toList

/-- The types of the attributes of a class. -/
def types : Text := "__annotations__".toList

def declaration : Text := "__api_doc__".toList

end SpecialName

/-- What a class tells of the base whose objects its own extend. -/
structure Parent where
  title : Text
  /-- Something that is no declaration stands where one could be. -/
  isMisdeclared : Bool
  /-- The text that describes the base, if it has one and it is a text. -/
  text : Except Fault (Option Text)

def objectDescription : Text :=
  Text.ofLines
    ["The base class of the class hierarchy.", "",
      "When called, it accepts no arguments and returns a new featureless",
      "instance that has no instance attributes and cannot be given any.", ""]

def Parent.object : Parent := ⟨"object".toList, false, .ok (some objectDescription)⟩

/-- A declared class. -/
structure DeclaredClass where
  /-- Tells the class from others of its name. -/
  number : Nat
  name : Text
  /-- What the class is shown as, which is its name unless it says otherwise. -/
  title : Text
  parent : Parent
  /-- The identities of the bases. -/
  bases : List Nat
  members : OrderedMap Text Member
  /-- The names that the class defines without declaring them. -/
  implied : List Text
  /-- What the class opens to its objects and its ancestors do not provide: all attributes
  together, or weak references. -/
  opened : List Text
  /-- The names that the class has come to have since it was declared, in order. One of them may
  be that of a record of the types of its attributes, which is empty. -/
  later : List Text

/-- A class of a lineage: the class of all endpoints, or a declared one. -/
inductive Ancestor where
  | base
  | declared (c : DeclaredClass)

namespace Ancestor

def identity : Ancestor → Nat
  | .base => 0
  | .declared c => c.number + 1

instance : BEq Ancestor where
  beq a b := a.identity == b.identity

def name : Ancestor → Text
  | .base => "Endpoint".toList
  | .declared c => c.name

def title : Ancestor → Text
  | .base => "Endpoint".toList
  | .declared c => c.title

def parent : Ancestor → Parent
  | .base => .object
  | .declared c => c.parent

def baseDescription : Text :=
  Text.ofLines
    ["", "    Parent class for all endpoints.", "",
      "    Holds the request, the response and the endpoint configuration for a",
      "    single call. The response is immutable, so methods that add headers",
      "    replace self.response with the new instance.", "    "]

def bases : Ancestor → List Nat
  | .base => []
  | .declared c => c.bases

/-- The names of what every class with nothing but the class of all objects behind it defines,
without being told to. -/
def impliedNames : List Text :=
  [SpecialName.home, SpecialName.attributes, SpecialName.weakReference, SpecialName.description]

def memberless (name : Text) : Ancestor :=
  .declared {
    number := 0
    name := name
    title := name
    parent := .object
    bases := []
    members := ∅
    implied := impliedNames
    opened := [SpecialName.attributes, SpecialName.weakReference]
    later := [] }

/-- The record of the types of a class's attributes. -/
def typeRecord : Text × Attribute := (SpecialName.types, .member (.value (.object [])))

def objectNames : List Text :=
  [SpecialName.creation, "__repr__".toList, "__hash__".toList, "__str__".toList,
    SpecialName.reading, SpecialName.assignment] ++
  (["__delattr__", "__lt__", "__le__", "__eq__", "__ne__", "__gt__", "__ge__", "__init__",
    "__reduce_ex__", "__reduce__", "__getstate__", "__subclasshook__"].map String.toList) ++
  [SpecialName.derivation, "__format__".toList, "__sizeof__".toList, "__dir__".toList,
    SpecialName.objectClass, SpecialName.description]

def attributes : Ancestor → List (Text × Attribute)
  | .base =>
    (Builtin.all.map fun b => (b.name, .builtin b)) ++
      impliedNames.map fun name => (name, .implied)
  | .declared c =>
    (c.members.entries.map fun e => (e.1, .member e.2)) ++
      (c.implied.map fun name => (name, .implied)) ++
      if c.later.contains SpecialName.types then [typeRecord] else []

/-- The class after it has been told that nothing is attached. -/
def detach : Ancestor → Ancestor
  | .base => .base
  | .declared c =>
    .declared { c with
      members := c.members.insert Attached.name (.value .null)
      later := if c.members.contains Attached.name then c.later else c.later ++ [Attached.name] }

/-- The class after it has begun to keep a record of the types of its attributes. -/
def keepTypes : Ancestor → Ancestor
  | .base => .base
  | .declared c => .declared { c with later := c.later ++ [SpecialName.types] }

/-- The class itself lets its objects have what goes by a name, all attributes together or weak
references. -/
def provides (name : Text) : Ancestor → Bool
  | .base => true
  | .declared c => c.opened.contains name

def places : Ancestor → List Text
  | .base => []
  | .declared c => (c.members.entries.filter fun e => e.2.isSlot).map Prod.fst

def hasSlots (c : Ancestor) : Bool := !c.places.isEmpty

/-- The names of the attributes of a class in the order in which it came to have them. The module
comes before the places, and whatever else is implied after them. -/
def names (c : Ancestor) : List Text :=
  match c with
  | .base =>
    [SpecialName.home, SpecialName.description] ++ Builtin.all.map Builtin.name ++
      [SpecialName.attributes, SpecialName.weakReference]
  | .declared d =>
    let declared := d.members.entries.filter fun e => !e.2.isSlot && !d.later.contains e.1
    declared.map Prod.fst ++
      d.implied.filter (· == SpecialName.home) ++ c.places ++
      d.implied.filter (· != SpecialName.home) ++ d.later

@[simp] theorem identity_detach (c : Ancestor) : c.detach.identity = c.identity := by
  cases c <;> rfl

@[simp] theorem name_keepTypes (c : Ancestor) : c.keepTypes.name = c.name := by
  cases c <;> rfl

end Ancestor

end VerbDoc
