import VerbDoc.Message.Basic

/-!
# What is attached to an endpoint as its response

An endpoint accepts anything as its response, also objects that answer for themselves. What matters
is whether headers can be added to it, and what that gives. Main statement: what comes of adding a
header is always something that can be looked at.
-/
namespace VerbDoc

/-- A step of a method body. -/
inductive Step where
  /-- Add a value to a header of the attached response. -/
  | addHeader (name value : Value)
  /-- Set a header of the attached response to one value. -/
  | setHeader (name value : Value)
  | setStatus (code reason : Value)
  /-- Detach the response. -/
  | dropResponse
  | fail (f : Fault)
  /-- Stop with a result. -/
  | finish (result : Value)
  /-- Stop with a function, which runs these steps on what the body runs on. -/
  | give (body : List Step)

/-- What a call gives. -/
inductive Outcome where
  | value (v : Value)
  /-- An object of which nothing is known but the name of its class. -/
  | object (className : Text)
  /-- A function that needs no arguments and runs these steps. -/
  | function (body : List Step)

def Outcome.isCallable : Outcome → Bool
  | .function _ => true
  | .value _ | .object _ => false

/-- What can be asked of a response. -/
inductive Change where
  | addHeader (name value : Value)
  | setHeader (name value : Value)
  | setStatus (code reason : Value)

mutual

/-- What is attached to an endpoint. -/
inductive Attached where
  | response (r : Response)
  /-- A request, to which no headers can be added. -/
  | request (r : Request)
  /-- An object of another kind that records the headers added to it. -/
  | recorder (added : List (Value × Value))
  /-- An object that is gone once a header is added to it. -/
  | vanishing
  /-- An object whose header operation is no operation. -/
  | notCallable
  /-- A plain value other than null, to which no headers can be added. -/
  | value (v : Value)
  /-- An object with the operations of a response that answers for itself. What it answers may
  depend on which of its kind it is and on its state. -/
  | foreign (answering : Nat → Nat → Change → Reply) (number state : Nat)
  /-- Anything else, by the name of its type and by how a call of it without arguments ends. No
  headers can be added to it. -/
  | other (typeName : Text) (called : Except Fault Outcome)
  /-- Nothing is attached. -/
  | absent
  /-- There is not even a place for a response, and looking for one ends with a fault. -/
  | missing (looking : Fault)

/-- What an object that answers for itself gives when it is asked for a change. -/
inductive Reply where
  /-- It fails and stays as it is. -/
  | fails (f : Fault)
  /-- It gives an object of its kind in a state, and perhaps itself. -/
  | turns (number state : Nat)
  | gives (a : Attached)

end

namespace Attached

def name : Text := "response".toList

/-- Headers can be added, unless the object itself refuses. -/
def acceptsHeaders : Attached → Bool
  | .response _ | .recorder _ | .vanishing | .foreign _ _ _ => true
  | .request _ | .notCallable | .value _ | .other _ _ | .absent | .missing _ => false

/-- What is attached where this is given: a place that is missing is nothing that can be given. -/
def given : Attached → Attached
  | .missing _ => .absent
  | a => a

/-- What is attached after a change that an object of this kind has replied to. -/
def afterReply (answering : Nat → Nat → Change → Reply) : Reply → Except Fault Attached
  | .fails f => .error f
  | .turns number state => .ok (.foreign answering number state)
  | .gives a => .ok a.given

/-- What is attached after a header has been added. The name of a header in a response is a
text. -/
def addHeader (name value : Value) : Attached → Except Fault Attached
  | .response r => (Headers.nameOf name).map fun t => .response (r.addHeader t value)
  | .recorder added => .ok (.recorder (added ++ [(name, value)]))
  | .vanishing => .ok .absent
  | .foreign answering number state =>
    afterReply answering (answering number state (.addHeader name value))
  | .notCallable => .error .notCallable
  | .missing looking => .error looking
  | .request _ | .value _ | .other _ _ | .absent => .error .missingAttribute

/-- What is attached after a header has been replaced, which only responses support, and objects
that answer for themselves. -/
def setHeader (name value : Value) : Attached → Except Fault Attached
  | .response r => (Headers.nameOf name).map fun t => .response (r.setHeader t value)
  | .foreign answering number state =>
    afterReply answering (answering number state (.setHeader name value))
  | .missing looking => .error looking
  | _ => .error .missingAttribute

/-- What is attached after the status has been changed, which the same support. -/
def setStatus (code reason : Value) : Attached → Except Fault Attached
  | .response r => .ok (.response (r.setStatus code reason))
  | .foreign answering number state =>
    afterReply answering (answering number state (.setStatus code reason))
  | .missing looking => .error looking
  | _ => .error .missingAttribute

/-- Both are one and the same object. An object that answers for itself keeps its identity in
another state; of everything else no two that are equal are ever told apart. -/
def IsSame : Attached → Attached → Prop
  | .foreign answering number _, .foreign answering' number' _ =>
    answering = answering' ∧ number = number'
  | a, b => a = b

def call : Attached → Except Fault Outcome
  | .other _ called => called
  | .missing looking => .error looking
  | _ => .error .notCallable

/-- The fault of looking at what is attached, where there is no place for it. -/
def fault? : Attached → Option Fault
  | .missing looking => some looking
  | _ => none

def ofValue : Value → Attached
  | .null => .absent
  | v => .value v

/-- The kinds of object that can be attached on request. -/
inductive Kind where
  | response | request | recorder | vanishing | notCallable | absent
  deriving DecidableEq, Repr

def build (kind : Kind) (fields : Fields) : Except Fault Attached :=
  match kind with
  | .response => (Response.ofFields fields).map .response
  | .request => (Request.ofFields fields).map .request
  | .recorder => .ok (.recorder [])
  | .vanishing => .ok .vanishing
  | .notCallable => .ok .notCallable
  | .absent => .ok .absent

theorem fault?_given (a : Attached) : a.given.fault? = none := by
  cases a <;> rfl

/-- Headers are added to nothing else than what accepts them. -/
theorem acceptsHeaders_of_addHeader {a b : Attached} {name value : Value}
    (h : a.addHeader name value = .ok b) : a.acceptsHeaders = true := by
  cases a with
  | response | recorder | vanishing | foreign => rfl
  | _ => cases h

/-- What comes of adding a header can be looked at. -/
theorem fault?_of_addHeader {a b : Attached} {name value : Value}
    (h : a.addHeader name value = .ok b) : b.fault? = none := by
  cases a with
  | response r =>
    simp only [addHeader] at h
    cases hname : Headers.nameOf name with
    | error f =>
      rw [hname] at h
      cases h
    | ok t =>
      rw [hname] at h
      obtain rfl := Except.ok.inj h
      rfl
  | recorder added =>
    obtain rfl := Except.ok.inj h
    rfl
  | vanishing =>
    obtain rfl := Except.ok.inj h
    rfl
  | foreign answering number state =>
    simp only [addHeader] at h
    cases hreply : answering number state (.addHeader name value) with
    | fails f =>
      rw [hreply] at h
      cases h
    | turns number state =>
      rw [hreply] at h
      obtain rfl := Except.ok.inj h
      rfl
    | gives a =>
      rw [hreply] at h
      obtain rfl := Except.ok.inj h
      exact a.fault?_given
  | _ => cases h

end Attached
end VerbDoc
