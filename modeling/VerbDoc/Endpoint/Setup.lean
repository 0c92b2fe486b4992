import VerbDoc.Endpoint.Call
import VerbDoc.Endpoint.Attribute
import VerbDoc.Handler.Hierarchy

/-!
# Setting up an endpoint

An endpoint is set up from declared classes and the fields of its parts, and then called. The
classes are declared before anything else is looked at, and the configuration is checked before
the request and the response.
-/
namespace VerbDoc

/-- What an endpoint is made of. -/
structure Setup where
  classes : List ClassDeclaration
  /-- The name of its class, by default the class declared last. -/
  handler : Option Text
  /-- Fields of a configuration, by default the one that the standard settings describe. -/
  configuration : Option Value
  request : Fields
  responseKind : Attached.Kind
  responseFields : Fields
  /-- Attributes of the object itself. -/
  attributes : List MemberDeclaration

namespace Setup

/-- The lineage of the endpoint's class. Without a name and without classes there is none. -/
def lineage? (s : Setup) (h : Hierarchy) : Except Fault (Option Lineage) :=
  match s.handler, s.classes.getLast? with
  | some name, _ => (h.find name).map some
  | none, some c => (h.find c.name).map some
  | none, none => .ok none

def configured (s : Setup) : Except Fault Configuration :=
  match s.configuration with
  | some fields => Configuration.ofValue fields
  | none => Configuration.ofSettings Settings.standard

def endpoint (s : Setup) : Except Fault Endpoint := do
  let h ← Hierarchy.initial.declareAll s.classes
  let lineage ← s.lineage? h
  let configuration ← s.configured
  let request ← Request.ofFields s.request
  let response ← Attached.build s.responseKind s.responseFields
  match lineage with
  | none => throw .notCallable
  | some l =>
    let e ← Endpoint.create l request response configuration
    e.assignAll s.attributes

/-- What keeps a run from being shown: it ends with a failure that cannot be, or it leaves no
place for what is attached. -/
def concealment? (r : Run Answer) : Option Fault :=
  match r.result with
  | .error .unshowable => some .unshowable
  | .error .unreasoned => some .unreasoned
  | .error .endless => some .endless
  | _ => r.response.fault?

end Setup

/-- What keeps anything from being read of the object in the common way. -/
def Endpoint.unreadability? (e : Endpoint) : Option Fault :=
  e.ownReading?.map fun found =>
    match found with
    | .error f => f
    | .ok _ => .unshowable

namespace Setup

/-- The runs of calls on the endpoint, if all of them can be shown. A class with its own way of
reading attributes lets nothing be seen of what is attached after a call. -/
def run (s : Setup) (calls : List Call) : Except Fault (List (Run Answer)) := do
  let e ← s.endpoint
  match e.unreadability?, calls with
  | some f, _ :: _ => throw f
  | _, _ =>
    let runs := (e.runCalls calls).2
    match runs.findSome? concealment? with
    | some f => throw f
    | none => return runs

end Setup
end VerbDoc
