import VerbDoc.Configuration
import VerbDoc.Handler.Lineage
import VerbDoc.Log

/-!
# Endpoints

An endpoint is an object of a handler class together with a request, the response attached to it
and a configuration. A method body that runs on an endpoint changes the attached response, and a
body that is given the class may hide what the class has under the name of the response.
-/
namespace VerbDoc

/-- An object of a handler class. -/
structure Endpoint where
  lineage : Lineage
  /-- Attributes of the object itself. -/
  attributes : OrderedMap Text Member
  request : Request
  response : Attached
  configuration : Configuration
  /-- The names of what the object holds, in the order in which it came to hold it. What it has a
  place of its own for is not among them. -/
  held : List Text

/-- The endpoint after an operation, how the operation ends, and what it logs. -/
structure Run (α : Type) where
  endpoint : Endpoint
  result : Except Fault α
  log : List Log.Event

namespace Run

variable {α β : Type}

def response (r : Run α) : Attached := r.endpoint.response

def map (f : α → β) (r : Run α) : Run β := { r with result := r.result.map f }

def bind (r : Run α) (f : α → Except Fault β) : Run β := { r with result := r.result.bind f }

end Run

namespace Endpoint

def className (e : Endpoint) : Text := e.lineage.className

def configurationName : Text := "config".toList

/-- The names of what every endpoint is made with. None of it can be called. -/
def partNames : List Text := ["request".toList, Attached.name, configurationName]

/-- The fault of using a part that the object has lost. What the class has in its place is of no
use, and where it has nothing the fallback is asked. -/
def lossFault (l : Lineage) (name : Text) : Fault :=
  match l.attribute? name with
  | none | some (.member .slot) => operationless (l.fallenBackOn l.bare)
  | some _ => .missingAttribute

/-- The objects of the class have a place of their own for an attribute. -/
def hasPlace (l : Lineage) (name : Text) : Bool :=
  match l.attribute? name with
  | some (.member .slot) => true
  | _ => false

/-- The object has a place for a name or holds something under it. -/
def has (e : Endpoint) (name : Text) : Bool := hasPlace e.lineage name || e.held.contains name

/-- The configuration. An attribute that has been put in its place hides it and is none. -/
def configured (e : Endpoint) : Except Fault Configuration :=
  if e.attributes.contains configurationName then .error .missingAttribute
  else if e.has configurationName then .ok e.configuration
  else .error (lossFault e.lineage configurationName)

/-- The endpoint when it has come to have something under a name. -/
def hold (e : Endpoint) (name : Text) : Endpoint :=
  if e.has name then e else { e with held := e.held ++ [name] }

/-- The endpoint with another configuration, which takes the place of whatever hid the old one. -/
def configure (e : Endpoint) (configuration : Configuration) : Endpoint :=
  { e.hold configurationName with
    configuration
    attributes := e.attributes.erase configurationName }

/-- The endpoint with what is attached to it changed. -/
def attach (e : Endpoint) (response : Attached) : Endpoint := { e with response }

/-- The endpoint with something else put in the place of its response. -/
def replaceResponse (e : Endpoint) (response : Attached) : Endpoint :=
  (e.hold Attached.name).attach response

/-- The endpoint after a body that ran on it has left its host like this. An object that has lost
its response finds the one of its class. -/
def settle (e : Endpoint) : Host → Endpoint
  | .object .absent => e.replaceResponse .absent
  | .object attached => e.attach attached
  | .handlerClass true =>
    let told := { e with lineage := e.lineage.detach }
    if e.has Attached.name then told else told.attach .absent
  | .handlerClass false | .bare _ _ _ => e

/-- The endpoint after a body has run on it, and how the body ends. -/
def runBody (e : Endpoint) (receiver : Receiver) (body : List Step) :
    Endpoint × Except Fault Outcome :=
  let (host, result) := Step.runAll (receiver.host e.response) body
  (e.settle host, result)

end Endpoint
end VerbDoc
