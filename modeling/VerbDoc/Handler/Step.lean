import VerbDoc.Fault.Raised
import VerbDoc.Message.Attached

/-!
# Steps of method bodies

The body of a method is a list of steps, most of which replace what is attached to the host, the
object that the method is given. A body stops at its first ending step and keeps what the steps
before it did. Main statement: a step that fails leaves the host as it is.
-/
namespace VerbDoc

/-- What the steps of a body act on. -/
inductive Host where
  /-- An object with what is attached to it. -/
  | object (attached : Attached)
  /-- A class. Nothing with headers is ever attached to a class, but it may be told that nothing
  is. -/
  | handlerClass (detached : Bool)
  /-- Something without a response, with the fault of looking for one, and perhaps a fault of
  detaching one. The fault of looking may last after a response has been detached. -/
  | bare (looking : Fault) (detaching : Option Fault) (lasting : Bool)

namespace Host

/-- Something that knows of no response and cannot be told of any. -/
def stranger : Host := .bare .missingAttribute (some .missingAttribute) false

/-- The host after a change of what is attached to it. -/
def change (host : Host) (f : Attached → Except Fault Attached) : Except Fault Host :=
  match host with
  | .object attached => (f attached).map .object
  | .handlerClass _ => .error .missingAttribute
  | .bare looking _ _ => .error looking

/-- The host with nothing attached. -/
def detach : Host → Except Fault Host
  | .object _ | .bare _ none false => .ok (.object .absent)
  | .bare looking none true => .ok (.bare looking none true)
  | .handlerClass _ => .ok (.handlerClass true)
  | .bare _ (some f) _ => .error f

/-- The host is a class that has been told that nothing is attached. -/
def isDetachedClass : Host → Bool
  | .handlerClass detached => detached
  | .object _ | .bare _ _ _ => false

end Host

namespace Step

/-- The host after a step that succeeds; a step that fails leaves it alone and ends the body. -/
def after (host : Host) : Except Fault Host → Host × Option (Except Fault Outcome)
  | .ok next => (next, none)
  | .error f => (host, some (.error f))

/-- The host after a step and, if the step ends the body, how the body ends. -/
def run (host : Host) : Step → Host × Option (Except Fault Outcome)
  | .addHeader name value => after host (host.change (Attached.addHeader name value))
  | .setHeader name value => after host (host.change (Attached.setHeader name value))
  | .setStatus code reason => after host (host.change (Attached.setStatus code reason))
  | .dropResponse => after host host.detach
  | .fail f => (host, some (.error f))
  | .finish result => (host, some (.ok (.value result)))
  | .give body => (host, some (.ok (.function body)))

/-- The host after a body, and how the body ends; without a result it ends with nothing. -/
def runAll (host : Host) : List Step → Host × Except Fault Outcome
  | [] => (host, .ok (.value .null))
  | step :: rest =>
    match step.run host with
    | (after, none) => runAll after rest
    | (after, some result) => (after, result)

/-- A step that fails leaves the host as it is. -/
theorem run_fst_of_error {host : Host} {step : Step} {f : Fault}
    (h : (step.run host).2 = some (.error f)) : (step.run host).1 = host := by
  have key : ∀ r, (after host r).2 = some (.error f) → (after host r).1 = host := by
    rintro (g | next) hr
    · rfl
    · simp [after] at hr
  cases step with
  | fail g => rfl
  | finish v => rfl
  | give body => rfl
  | _ => exact key _ h

end Step

/-- What a call gives in the place of a response. A function is called on the host. -/
def Attached.ofOutcome (host : Host) : Outcome → Attached
  | .value v => .ofValue v
  | .object className => .other className (.error .notCallable)
  | .function body => .other "function".toList (Step.runAll host body).2

end VerbDoc
