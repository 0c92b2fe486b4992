import VerbDoc.Handler.Ancestor

/-!
# Lineages of classes

A class inherits from its bases. Its lineage lists the class itself and all ancestors, so that
each class comes before its bases, and the bases of each class come in their order. Main
statement: a name stands for what the first class of the lineage that defines it says.
-/
namespace VerbDoc

/-- A class followed by its ancestors, nearest first. -/
abbrev Lineage := List Ancestor

namespace Lineage

variable {α : Type} [BEq α]

/-- The first head of a list that is in the tail of none. -/
def nextHead? (lists : List (List α)) : Option α :=
  (lists.filterMap List.head?).find? fun head => lists.all fun l => !l.tail.contains head

def dropHead (a : α) (l : List α) : List α :=
  match l with
  | [] => []
  | b :: rest => if b == a then rest else b :: rest

/-- Merges lists into one that respects the order of each, taking the earliest head that is free
to go, in at most `fuel` steps. -/
def mergeWithin : Nat → List (List α) → Option (List α)
  | 0, lists => if lists.all List.isEmpty then some [] else none
  | fuel + 1, lists =>
    if lists.all List.isEmpty then some []
    else
      match nextHead? lists with
      | none => none
      | some head => (mergeWithin fuel (lists.map (dropHead head))).map (head :: ·)

/-- Merges lists into one that respects the order of each. Every step drops an element, so the
total length bounds the steps. -/
def merge? (lists : List (List α)) : Option (List α) :=
  mergeWithin lists.flatten.length lists

def className (l : Lineage) : Text :=
  match l with
  | [] => []
  | c :: _ => c.name

def isEndpoint (l : Lineage) : Bool := l.contains .base

def detach (l : Lineage) : Lineage :=
  match l with
  | [] => []
  | c :: rest => c.detach :: rest

def keepTypes (l : Lineage) : Lineage :=
  match l with
  | [] => []
  | c :: rest => c.keepTypes :: rest

def attribute? (l : Lineage) (name : Text) : Option Attribute :=
  l.findSome? fun c => OrderedMap.find name c.attributes

/-- The names that the class with the given identity defines, and those that its bases do, each
base with all that it inherits before the next one. `fuel` bounds how far they go back. -/
def namesFrom (l : Lineage) : Nat → Nat → List Text
  | 0, _ => []
  | fuel + 1, identity =>
    match l.find? fun c => c.identity == identity with
    | none => []
    | some c =>
      c.names ++
        if c.bases.isEmpty then Ancestor.objectNames else c.bases.flatMap (l.namesFrom fuel)

/-- The names of all that a class defines or inherits. No class is its own ancestor, so that the
number of classes bounds how far they go back. -/
def names (l : Lineage) : List Text :=
  (l.head?.map fun c => l.namesFrom l.length c.identity).getD []

/-- The size of an object of the class: what every object takes, what refers to it without keeping
it, and a place for each attribute that has one. -/
def objectSize (l : Lineage) : Nat := 24 + 8 * (l.flatMap Ancestor.places).length

def own? (l : Lineage) (name : Text) : Option Attribute :=
  l.head?.bind fun c => OrderedMap.find name c.attributes

/-! ## Bases -/

/-- The text that something in the place of a class's description is. What counts as nothing is
none, and anything else that is no text cannot be read. -/
def describedBy : Option Attribute → Except Fault (Option Text)
  | none | some .implied => .ok none
  | some (.member (.value (.text t))) => .ok (some t)
  | some (.member (.value v)) => if v.isTruthy then .error .wrongType else .ok none
  | some _ => .error .wrongType

/-- Something that is not null stands in the place of a declaration. -/
def isMisdeclared (l : Lineage) : Bool :=
  match l.attribute? SpecialName.declaration with
  | none | some (.member (.value .null)) => false
  | some _ => true

/-- What is told of a class by a class whose objects extend its own. The class of all objects has
an empty lineage. -/
def asParent (l : Lineage) : Parent :=
  match l with
  | [] => .object
  | .base :: _ => ⟨Ancestor.base.title, l.isMisdeclared, .ok (some Ancestor.baseDescription)⟩
  | c :: _ => ⟨c.title, l.isMisdeclared, describedBy (l.own? SpecialName.description)⟩

/-! ## Special names

A class that has something of its own under a special name goes by it. Most of it is called with
arguments that it has no use for, so that nothing comes of it but a fault; a method that takes a
name can be asked for an attribute. -/

end Lineage

/-- How the use of what a class has under a name ends, given how reading it ends: it cannot be
called with arguments that it has no use for. -/
def refused (read : Except Fault Outcome) : Fault :=
  match read with
  | .error f => f
  | .ok _ => .notCallable

/-- The fault of looking for the operations of a response in what comes of reading. -/
def operationless (read : Except Fault Outcome) : Fault :=
  match read with
  | .error f => f
  | .ok _ => .missingAttribute

namespace Attribute

/-- How reading what a name stands for ends, on an object that the host stands for. A property runs
its body, a place is empty, and the value of anything else is of no matter. -/
def readOn (host : Host) : Attribute → Except Fault Outcome
  | .member (.property body) => (Step.runAll host body).2
  | .member .slot => .error .missingAttribute
  | .member _ | .builtin _ | .implied => .ok (.value .null)

/-- How asking what a name stands for an attribute ends, on an object that the host stands for. -/
def askedOn (host : Host) : Attribute → Except Fault Outcome
  | .member (.routine r) =>
    match r.receiver with
    | .objectAndName => (Step.runAll host r.body).2
    | .object | .objectClass | .nothing => .error .notCallable
  | a => .error (refused (a.readOn host))

end Attribute

namespace Lineage

/-- How looking for what an object has not ends, on an object that the host stands for. -/
def fallenBackOn (l : Lineage) (host : Host) : Except Fault Outcome :=
  match l.attribute? SpecialName.fallback with
  | none => .error .missingAttribute
  | some a => a.askedOn host

/-- How reading anything ends on an object whose class has its own way of reading, if it has. What
is not found that way is left to the fallback. -/
def ownReadingOn? (l : Lineage) (host : Host) : Option (Except Fault Outcome) :=
  (l.attribute? SpecialName.reading).map fun a =>
    match a.askedOn host with
    | .error .missingAttribute => l.fallenBackOn host
    | read => read

/-- How looking for a response ends on an object that has none. -/
def lookedOn (l : Lineage) (host : Host) : Except Fault Outcome :=
  match l.ownReadingOn? host, (l.attribute? Attached.name).map (Attribute.readOn host) with
  | some read, _ => read
  | none, none | none, some (.error .missingAttribute) => l.fallenBackOn host
  | none, some read => read

/-- What keeps an object from being told that nothing is attached. -/
def detachingFault? (l : Lineage) (host : Host) : Option Fault :=
  match l.attribute? SpecialName.assignment, l.attribute? Attached.name with
  | some a, _ => some (refused (a.readOn host))
  | none, some (.member (.property _)) => some .missingAttribute
  | none, some (.member .slot) => none
  | none, _ =>
    if l.any (Ancestor.provides SpecialName.attributes) then none else some .missingAttribute

/-- An object of the class before a response is attached to it, given what the bodies under special
names act on. -/
def bareHost (l : Lineage) (host : Host) : Host :=
  .bare (operationless (l.lookedOn host)) (l.detachingFault? host) (l.ownReadingOn? host).isSome

/-- An object of the class before a response is attached to it. A body under a special name may
itself come upon one; what has not ended within `fuel` names never ends. -/
def bareWithin (l : Lineage) : Nat → Host
  | 0 => .bare .endless (some .endless) true
  | fuel + 1 => l.bareHost (l.bareWithin fuel)

/-- An object of the class before a response is attached to it. There are four names that a body
may come upon, so that a longer chain of them repeats one. -/
def bare (l : Lineage) : Host := l.bareWithin 6

/-- The fault of what a class has under a name, called with arguments that it has no use for. -/
def refusal? (l : Lineage) (name : Text) : Option Fault :=
  (l.attribute? name).map fun a => refused (a.readOn l.bare)

theorem attribute?_cons (c : Ancestor) (l : Lineage) (name : Text) :
    attribute? (c :: l) name =
      match OrderedMap.find name c.attributes with
      | some a => some a
      | none => attribute? l name := by
  simp only [attribute?, List.findSome?_cons]
  cases OrderedMap.find name c.attributes <;> rfl

/-- A name that no class defines is not refused. -/
theorem refusal?_eq_none_iff (l : Lineage) (name : Text) :
    l.refusal? name = none ↔ l.attribute? name = none := by
  rw [refusal?, Option.map_eq_none_iff]

end Lineage
end VerbDoc
