import VerbDoc.Endpoint.Basic
import VerbDoc.Handler.Instance

/-!
# Attributes of endpoints

An endpoint is made of a request, a response and a configuration by the operation that makes
endpoints; where a class defines something else in its place, or interferes with it, no endpoint is
made. An attribute is looked for in the class and among the attributes of the object itself, which
come first unless the class has a property or a place under the name. A class may have its own way
of reading attributes, and one of looking for those that are not there. Main statements: an
operation that every endpoint has is found unless something else bears its name or the class reads
in its own way; a class that does not interfere makes an endpoint of its parts.
-/
namespace VerbDoc

/-- What is found under a name on an endpoint. -/
inductive Found where
  /-- An attribute of the class, which is no property. -/
  | inherited (a : Attribute)
  /-- An attribute of the object itself. -/
  | own (m : Member)
  /-- What a body gave that ran on the object. -/
  | computed (o : Outcome)
  /-- What a body gave that ran on something else. -/
  | lent (host : Host) (o : Outcome)
  /-- What is attached. -/
  | attached (a : Attached)
  /-- Something that every object has. -/
  | universal (name : Text)

namespace Found

/-- The names of those that can be called without arguments and do nothing. -/
def quietNames : List Text :=
  [SpecialName.derivation, Builtin.create.name, "__subclasshook__".toList]

def listingName : Text := "__dir__".toList

def sizeName : Text := "__sizeof__".toList

def isCallable : Found → Bool
  | .inherited (.builtin _) | .universal _ => true
  | .inherited (.member m) => m.isCallable
  | .own m => m.isCallableAlone
  | .computed o | .lent _ o => o.isCallable
  | .inherited .implied | .attached _ => false

end Found

namespace Endpoint

/-- How asking what the class has under a special name for an attribute ends, if it has anything,
where the endpoint cannot be read in the common way. What the object itself has in a place of that
name is given the name that is asked for. -/
def asked? (e : Endpoint) (special : Text) : Option (Except Fault Found) :=
  match e.lineage.attribute? special, e.attributes.get? special with
  | some (.member .slot), some m => some (m.callWithText.map (.lent .stranger))
  | some a, _ => some ((a.askedOn e.lineage.bare).map (.lent e.lineage.bare))
  | none, _ => none

/-- The outcome of reading anything from the object, if its class has its own way of reading. What
is not found that way is left to the fallback. -/
def ownReading? (e : Endpoint) : Option (Except Fault Found) :=
  (e.asked? SpecialName.reading).map fun read =>
    match read with
    | .error .missingAttribute =>
      (e.asked? SpecialName.fallback).getD (.error .missingAttribute)
    | read => read

/-- The outcome of reading an attribute that is not there. A method in the place of the fallback
that takes a name runs; so does a property in that place, but what it gives has no use for a name.
What the object itself has in such a place is given the name. -/
def readMissing (e : Endpoint) : Endpoint × Except Fault Found :=
  match e.lineage.attribute? SpecialName.fallback with
  | none => (e, .error .missingAttribute)
  | some (.member .slot) =>
    (e, ((e.attributes.get? SpecialName.fallback).elim (.error .missingAttribute)
      Member.callWithText).map (.lent .stranger))
  | some (.member (.property body)) =>
    let (after, result) := e.runBody .object body
    (after, .error (refused result))
  | some (.member (.routine r)) =>
    match r.receiver with
    | .objectAndName =>
      let (after, result) := e.runBody .objectAndName r.body
      (after, result.map .computed)
    | .object | .objectClass | .nothing => (e, .error .notCallable)
  | some _ => (e, .error .notCallable)

def own? (e : Endpoint) (name : Text) : Option Found :=
  match e.attributes.get? name with
  | some m => some (.own m)
  | none =>
    if name == Attached.name then
      if e.response.fault?.isSome then none else some (.attached e.response)
    else if partNames.contains name && e.has name then some (.own (.value .null))
    else none

/-- The outcome of reading an attribute where the class has nothing that comes before what the
object itself has. -/
def lookUp (e : Endpoint) (name : Text) : Endpoint × Except Fault Found :=
  match e.own? name, e.lineage.attribute? name with
  | some found, _ => (e, .ok found)
  | none, some a => (e, .ok (.inherited a))
  | none, none =>
    if Ancestor.objectNames.contains name then (e, .ok (.universal name)) else e.readMissing

/-- The outcome of reading an attribute in the common way. A property of the class runs its body,
and a place holds what the object itself has. -/
def readPlainly (e : Endpoint) (name : Text) : Endpoint × Except Fault Found :=
  match e.lineage.attribute? name with
  | some (.member (.property body)) =>
    match e.runBody .object body with
    | (after, .ok o) => (after, .ok (.computed o))
    | (after, .error .missingAttribute) => after.readMissing
    | (after, .error f) => (after, .error f)
  | some (.member .slot) =>
    match e.own? name with
    | some found => (e, .ok found)
    | none => e.readMissing
  | _ => e.lookUp name

/-- The endpoint after a name has been read, and what was found. -/
def read (e : Endpoint) (name : Text) : Endpoint × Except Fault Found :=
  match e.ownReading? with
  | some found => (e, found)
  | none => e.readPlainly name

def namesOf (e : Endpoint) : Found → List Text
  | .inherited .implied => e.held
  | .inherited (.member (.value (.object members))) | .own (.value (.object members))
  | .computed (.value (.object members)) | .lent _ (.value (.object members)) =>
    members.map Prod.fst
  | _ => []

/-- The endpoint after its attributes have been asked for together, and their names. -/
def heldNames (e : Endpoint) : Endpoint × Except Fault (List Text) :=
  match e.read SpecialName.attributes with
  | (after, .ok found) => (after, .ok (after.namesOf found))
  | (after, .error .missingAttribute) => (after, .ok [])
  | (after, .error f) => (after, .error f)

/-- The names of what is found in the place of the class of an object: those that the class
defines or inherits, and of a method the name of what is declared of it. -/
def classNamesOf (e : Endpoint) : Found → List Text
  | .universal _ => e.lineage.names
  | .inherited (.member (.nestedClass name)) =>
    (Ancestor.memberless name).names ++ Ancestor.objectNames
  | .inherited (.member (.routine r)) => if r.declared.isSome then [SpecialName.declaration] else []
  | _ => []

/-- The endpoint after its class has been asked for, and the names of what objects of the class
inherit. -/
def inheritedNames (e : Endpoint) : Endpoint × Except Fault (List Text) :=
  match e.read SpecialName.objectClass with
  | (after, .ok found) => (after, .ok (after.classNamesOf found))
  | (after, .error .missingAttribute) => (after, .ok [])
  | (after, .error f) => (after, .error f)

/-- The names of what the object holds, and after them those of what it inherits, each name
once. -/
def listNames (e : Endpoint) : Endpoint × Except Fault Value :=
  match e.heldNames with
  | (after, .error f) => (after, .error f)
  | (after, .ok held) =>
    let (final, inherited) := after.inheritedNames
    (final, inherited.map fun more => .list ((held ++ more).eraseDups.map .text))

/-- The endpoint after a call without arguments of something that every object has, and how the
call ends. -/
def callUniversal (e : Endpoint) (name : Text) : Endpoint × Except Fault Value :=
  if Found.quietNames.contains name then (e, .ok .null)
  else if name == Found.listingName then e.listNames
  else if name == Found.sizeName then (e, .ok (.int e.lineage.objectSize))
  else (e, .error .notCallable)

/-- The endpoint after a method of its class has been called without arguments, and how the call
ends. -/
def callRoutine (e : Endpoint) (r : Routine) : Endpoint × Except Fault Outcome :=
  match r.receiver with
  | .objectAndName => (e, .error .notCallable)
  | receiver => e.runBody receiver r.body

/-- The endpoint after a call without arguments of what was found, and how the call ends. The
operations that every endpoint has are not called this way. -/
def call (e : Endpoint) : Found → Endpoint × Except Fault Outcome
  | .inherited (.member (.routine r)) => e.callRoutine r
  | .inherited (.member .callable) => (e, Member.callable.callAlone)
  | .inherited (.member (.nestedClass name)) => (e, (Member.nestedClass name).callAlone)
  | .own m => (e, m.callAlone)
  | .computed (.function body) => e.runBody .object body
  | .lent host (.function body) =>
    let (after, result) := Step.runAll host body
    (e.settle after, result)
  | .attached a => (e, a.call)
  | .universal name =>
    let (after, result) := e.callUniversal name
    (after, result.map .value)
  | .inherited _ | .computed _ | .lent _ _ => (e, .error .notCallable)

/-- The name of the type of a method that is found through an object. -/
def boundTypeName (r : Routine) : Text :=
  match r.receiver with
  | .object | .objectClass | .objectAndName => "method".toList
  | .nothing => "function".toList

/-- How a call without arguments of a method ends that is found through an object without a
response. -/
def calledWithout (r : Routine) : Except Fault Outcome :=
  match r.receiver with
  | .objectAndName => .error .notCallable
  | receiver => (Step.runAll (receiver.host .notCallable) r.body).2

/-- What is attached to an object of the class that has lost its response. What the class has in
its place is found instead, or what its fallback gives. -/
def inheritedResponse (l : Lineage) : Attached :=
  match l.attribute? Attached.name with
  | some (.member (.routine r)) => .other (boundTypeName r) (calledWithout r)
  | some (.member (.value v)) => .ofValue v
  | some (.member .callable) => Member.callable.attached
  | some (.member (.nestedClass name)) => (Member.nestedClass name).attached
  | _ =>
    match l.lookedOn l.bare with
    | .ok o => .ofOutcome l.bare o
    | .error f => .missing f

/-- The endpoint with these attributes and no others. What has a place of its own stays there. -/
def replaceAttributes (e : Endpoint) (all : Fields) : Endpoint :=
  let others := all.entries.filter fun entry =>
    entry.1 != Attached.name && !hasPlace e.lineage entry.1
  let placed := e.attributes.entries.filter fun entry => hasPlace e.lineage entry.1
  { e with
    attributes := .ofList (placed ++ others.map fun entry => (entry.1, .value entry.2))
    response :=
      if hasPlace e.lineage Attached.name then e.response
      else (all.get? Attached.name).elim (inheritedResponse e.lineage) .ofValue
    held := all.keys }

/-- A name keeps the meaning it has for every object, because no class declares it. -/
def isUndeclared : Option Attribute → Bool
  | none | some .implied => true
  | some _ => false

/-- The endpoint with an attribute of its own assigned. One with the name of the response takes
its place. A property of the class does not let itself be assigned. The class gives way to a class
without members where the objects have no places of their own, and to nothing else. -/
def assign (e : Endpoint) (name : Text) (m : Member) : Except Fault Endpoint :=
  match e.lineage.attribute? name with
  | some (.member (.property _)) => .error .missingAttribute
  | inherited =>
    if name == Attached.name then .ok (e.replaceResponse m.attached)
    else if isUndeclared inherited && name == SpecialName.objectClass then
      match m with
      | .nestedClass className =>
        if e.lineage.any Ancestor.hasSlots then .error .wrongType
        else .ok { e with lineage := [.memberless className] }
      | _ => .error .wrongType
    else if isUndeclared inherited && name == SpecialName.weakReference then
      .error .missingAttribute
    else if isUndeclared inherited && name == SpecialName.attributes then
      match m with
      | .value (.object members) => .ok (e.replaceAttributes (.ofList members))
      | _ => .error .wrongType
    else .ok { e.hold name with attributes := e.attributes.insert name m }

def assignAll (e : Endpoint) (ms : List MemberDeclaration) : Except Fault Endpoint :=
  ms.foldlM (fun e m => m.check.bind (e.assign m.name)) e

theorem asked?_eq_none_iff (e : Endpoint) (special : Text) :
    e.asked? special = none ↔ e.lineage.attribute? special = none := by
  unfold asked?
  split <;> simp_all

theorem ownReading?_eq_none_iff (e : Endpoint) :
    e.ownReading? = none ↔ e.lineage.attribute? SpecialName.reading = none := by
  rw [ownReading?, Option.map_eq_none_iff, asked?_eq_none_iff]

theorem read_eq_readPlainly {e : Endpoint} (h : e.lineage.attribute? SpecialName.reading = none)
    (name : Text) : e.read name = e.readPlainly name := by
  rw [read, e.ownReading?_eq_none_iff.2 h]

/-- An operation that every endpoint has is found where the class has no way of reading of its own
and neither the class nor the object has anything else under its name. -/
theorem read_builtin {e : Endpoint} {b : Builtin}
    (hreading : e.lineage.attribute? SpecialName.reading = none)
    (hclass : e.lineage.attribute? b.name = some (.builtin b))
    (hown : e.attributes.get? b.name = none) :
    e.read b.name = (e, .ok (.inherited (.builtin b))) := by
  have hname : b.name ≠ Attached.name := by cases b <;> decide
  have hpart : b.name ∉ partNames := by cases b <;> decide
  rw [read_eq_readPlainly hreading]
  simp [readPlainly, lookUp, own?, hclass, hown, hname, hpart]

/-! ## How endpoints come to be -/

def hasProperty (l : Lineage) (name : Text) : Bool :=
  match l.attribute? name with
  | some (.member (.property _)) => true
  | _ => false

/-- What keeps a class from having the parts of an endpoint assigned: its own way of assigning
attributes, or a property under the name of a part. -/
def obstacle? (l : Lineage) : Option Fault :=
  match l.refusal? SpecialName.assignment with
  | some f => some f
  | none => if partNames.any (hasProperty l) then some .missingAttribute else none

def create (lineage : Lineage) (request : Request) (response : Attached)
    (configuration : Configuration) : Except Fault Endpoint :=
  match lineage.attribute? SpecialName.creation, lineage.attribute? Builtin.create.name with
  | none, some (.builtin .create) =>
    match obstacle? lineage with
    | some f => .error f
    | none =>
      let held := partNames.filter fun name => !hasPlace lineage name
      .ok ⟨lineage, ∅, request, response, configuration, held⟩
  | none, _ => .error ((lineage.refusal? Builtin.create.name).getD .notCallable)
  | some _, _ => .error .notCallable

theorem create_eq_ok {lineage : Lineage} (request : Request) (response : Attached)
    (configuration : Configuration)
    (hnew : lineage.attribute? SpecialName.creation = none)
    (hinit : lineage.attribute? Builtin.create.name = some (.builtin .create))
    (hassign : lineage.attribute? SpecialName.assignment = none)
    (hparts : ∀ name ∈ partNames, hasProperty lineage name = false) :
    create lineage request response configuration =
      .ok ⟨lineage, ∅, request, response, configuration,
        partNames.filter fun name => !hasPlace lineage name⟩ := by
  have hany : partNames.any (hasProperty lineage) = false := by
    rw [List.any_eq_false]
    intro name h
    simp [hparts name h]
  have hrefuse := (lineage.refusal?_eq_none_iff SpecialName.assignment).2 hassign
  simp [create, hnew, hinit, obstacle?, hrefuse, hany]

end Endpoint
end VerbDoc
