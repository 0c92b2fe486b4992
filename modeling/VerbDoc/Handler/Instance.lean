import VerbDoc.Handler.Lineage

/-!
# Objects made without arguments

A class that is called without arguments makes an object, unless it makes something else in its
place, and then prepares it.
-/
namespace VerbDoc

/-- What a call of a class without arguments leads to. -/
structure Instance where
  /-- The class has been told that nothing is attached. -/
  detached : Bool
  /-- What has taken the place of the object. -/
  replacement : Option Outcome

namespace Lineage

def preparation : Text := "__init__".toList

def newHost (l : Lineage) : Receiver → Host
  | .object | .objectAndName => l.bare
  | .objectClass => .handlerClass false
  | .nothing => .stranger

/-- Whether the class has been told that nothing is attached, after what has prepared an object,
which has to give nothing. -/
def prepared : Host × Except Fault Outcome → Except Fault Bool
  | (_, .error f) => .error f
  | (host, .ok (.value .null)) => .ok host.isDetachedClass
  | (_, .ok _) => .error .notCallable

/-- Whether the class has been told that nothing is attached once an object has been prepared. -/
def prepare (l : Lineage) : Except Fault Bool :=
  match l.attribute? preparation with
  | none => .ok false
  | some (.member (.routine r)) =>
    match r.receiver with
    | .objectAndName => .error .notCallable
    | receiver => prepared (Step.runAll (l.newHost receiver) r.body)
  | some (.member (.property body)) =>
    match Step.runAll l.bare body with
    | (host, .ok (.function inner)) => prepared (Step.runAll host inner)
    | (_, read) => .error (refused read)
  | some a => .error (refused (a.readOn l.bare))

/-- What a call of the class without arguments leads to. A method that makes objects is given the
class, and what it gives takes the place of the object. -/
def instantiate (l : Lineage) : Except Fault Instance :=
  match l.attribute? SpecialName.creation with
  | none => l.prepare.map fun detached => ⟨detached, none⟩
  | some (.member (.routine r)) =>
    match r.receiver with
    | .object =>
      let (host, result) := Step.runAll (.handlerClass false) r.body
      result.map fun made => ⟨host.isDetachedClass, some made⟩
    | .objectClass | .objectAndName | .nothing => .error .notCallable
  | some _ => .error .notCallable

end Lineage
end VerbDoc
