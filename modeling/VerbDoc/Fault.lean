import VerbDoc.OrderedMap.Lemmas
import VerbDoc.Value.Display
import VerbDoc.Value.Label

/-!
# Faults

Every way in which an operation of the library can be refused, with what is reported about it. A
refused method is recorded in the details unless they speak of it already.
-/
namespace VerbDoc

/-- What an endpoint failure tells its caller. Nothing is required of the message and of the
component, which are texts as a rule. -/
structure Report where
  message : Value
  component : Value
  details : OrderedMap Label Value
  deriving Repr

/-- A refusal. -/
inductive Fault where
  /-- A documentation marker without characters. -/
  | emptyMarker
  /-- Something was refused for the given reason. -/
  | rejected (reason : Text)
  /-- Something was to be refused, and no reason was given. -/
  | unreasoned
  /-- An operation that needs itself, and would never end. -/
  | endless
  /-- What was looked up by a key is not there: a documentation tag, or a class. -/
  | missingKey (key : Text)
  /-- The bases of a class have no consistent order, or one of them is listed twice. -/
  | inconsistentBases
  /-- Fields whose values are not allowed, in order and without repetition. -/
  | invalidFields (names : List Text)
  /-- There is no setting of the given name. -/
  | unknownSetting (name : Text)
  /-- An object lacks the attribute that was asked of it, or does not let it be assigned. -/
  | missingAttribute
  /-- What was to be called cannot be called, or not with these arguments. -/
  | notCallable
  /-- A value is of another type than the operation on it needs. -/
  | wrongType
  /-- The arguments of a command line name no settings, or give them no texts. -/
  | unknownArguments
  /-- A variable cannot go without a name. -/
  | unnamedVariable
  /-- An endpoint failed. -/
  | failed (report : Report)
  /-- An endpoint failed with details that cannot be shown. -/
  | unshowable
  /-- The settings make no usable configuration. -/
  | misconfigured (report : Report)
  /-- The handler refuses the method, which may be unnamed. -/
  | methodNotAllowed (method : Value) (report : Report)
  deriving Repr

namespace Report

def plain (message : Value) : Report := ⟨message, .text "unknown".toList, ∅⟩

def refusal : Report := ⟨.text "Method not allowed".toList, .text "endpoint".toList, ∅⟩

def text (report : Report) : Text := report.message.display

/-- The report with the refused method among its details. An entry for it that is already
there stays, and a method that counts as nothing adds none. -/
def naming (report : Report) (method : Value) : Report :=
  let key := Label.text "method".toList
  if !method.isTruthy || report.details.contains key then report
  else { report with details := report.details.insert key method }

end Report

namespace Fault

def refusalStatus : Nat := 405

/-- An entry was to be made of something that has not two parts but `length`. -/
def badEntry (position length : Nat) : Fault :=
  .rejected <|
    "dictionary update sequence element #".toList ++ Nat.toDigits 10 position ++
      " has length ".toList ++ Nat.toDigits 10 length ++ "; 2 is required".toList

/-- Refusal of a method, with the method recorded in the details. -/
def refuse (method : Value) (report : Report) : Fault :=
  .methodNotAllowed method (report.naming method)

def message? : Fault → Option Text
  | .emptyMarker => some "marker must not be empty".toList
  | .rejected reason => some reason
  | .missingKey key => some key
  | .unknownSetting name =>
    some ("\"Settings\" object has no field \"".toList ++ name ++ ['"'])
  | .failed report | .misconfigured report | .methodNotAllowed _ report => some report.text
  | .inconsistentBases | .invalidFields _ | .missingAttribute | .notCallable | .wrongType
  | .unknownArguments | .unnamedVariable | .unshowable | .unreasoned | .endless => none

end Fault
end VerbDoc
