import VerbDoc.Endpoint.Attribute
import VerbDoc.Endpoint.Options
import VerbDoc.Handler.Hierarchy
import VerbDoc.Handler.Instance
import VerbDoc.Value.Operations

/-!
# Inspecting declared classes

Declared classes are asked for their operations, and objects of them for their verbs. An object
has to be made for that, which may fail and may have an effect on its class. The inspections before
a failing one keep what they have logged.
-/
namespace VerbDoc

/-- A question about a declared class. -/
inductive Inspection where
  | operations (className : Text)
  | operation (className verb : Text)
  | verbs (className : Text) (whitelist : List Text)

/-- What an inspection finds. -/
inductive Finding where
  /-- Operations by name, each with its title if it has one. -/
  | operations (titles : List (Text × Option Text))
  | operation (title : Option Text)
  | verbs (verbs : List Text)
  deriving DecidableEq, Repr

namespace Lineage

/-- An object of the class. One of a class of endpoints has to be made like an endpoint. -/
def sample (l : Lineage) : Except Fault Instance :=
  if l.isEndpoint then
    (Endpoint.create l .standard .absent .standard).map fun _ => ⟨false, none⟩
  else l.instantiate

end Lineage

/-- The names of the operations of what a call gives. Nothing is known of those of an object. -/
def Outcome.operationNames : Outcome → List Text
  | .value v => v.operationNames
  | .function _ => Value.functionOperations
  | .object _ => []

def Outcome.typeName : Outcome → Text
  | .value v => v.typeName
  | .function _ => "function".toList
  | .object className => className

/-- The verbs of a whitelist that the operations of what a call gives stand for, and what is logged
about them. -/
def Outcome.listVerbs (o : Outcome) (whitelist : List Text) : List Text × List Log.Event :=
  let verbs := (o.operationNames.map Text.upper).filter whitelist.contains
  (verbs, [.verbsListed o.typeName verbs])

/-- The verbs of a whitelist that an object of a class implements, or what is in its place. -/
def Instance.listVerbs (i : Instance) (l : Lineage) (whitelist : List Text) :
    Except Fault (List Text) × List Log.Event :=
  match i.replacement with
  | some o => let (verbs, log) := o.listVerbs whitelist; (.ok verbs, log)
  | none => l.listVerbs whitelist

namespace Hierarchy

def afterMaking (h : Hierarchy) (l : Lineage) (i : Instance) : Hierarchy :=
  if i.detached then h.change l Ancestor.detach else h

def afterPassing (h : Hierarchy) (l : Lineage) (passed : List Operation) : Hierarchy :=
  if l.keepsTypesAfter passed then h.change l Ancestor.keepTypes else h

/-- The hierarchy after an inspection, what is found, and what is logged. -/
def inspect (h : Hierarchy) : Inspection → Except Fault (Hierarchy × Finding × List Log.Event)
  | .operations className => do
    let l ← h.find className
    return (h.afterPassing l l.operations, .operations (← l.titledOperations), [])
  | .operation className verb => do
    let l ← h.find className
    return (h.afterPassing l (l.passed verb), .operation (← l.operationTitle? verb), [])
  | .verbs className whitelist => do
    let i ← (← h.find className).sample
    let made := h.afterMaking (← h.find className) i
    let l ← made.find className
    let (verbs, log) := i.listVerbs l whitelist
    let after := if i.replacement.isSome then made else made.afterPassing l l.operations
    return (after, .verbs (← verbs), log)

/-- What several inspections in turn find, or the first fault, and what is logged before that. -/
def inspectAll (h : Hierarchy) : List Inspection → Except Fault (List Finding) × List Log.Event
  | [] => (.ok [], [])
  | first :: rest =>
    match h.inspect first with
    | .error f => (.error f, [])
    | .ok (next, finding, log) =>
      let (findings, more) := next.inspectAll rest
      (findings.map (finding :: ·), log ++ more)

/-- What inspections of newly declared classes find. -/
def inspectDeclared (h : Hierarchy) (cs : List ClassDeclaration) (inspections : List Inspection) :
    Except Fault (List Finding) × List Log.Event :=
  match h.declareAll cs with
  | .ok declared => declared.inspectAll inspections
  | .error f => (.error f, [])

end Hierarchy
end VerbDoc
