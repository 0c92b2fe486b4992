import VerbDoc.Fault

/-!
# Faults made from arguments

Handlers raise faults of four kinds. The arguments of a fault are given in order or by name, and
nothing but their number and names is checked: any value may be a message.
-/
namespace VerbDoc

/-- The kinds of fault that a handler may raise. -/
inductive FaultKind where
  | rejection | failure | misconfiguration | refusal
  deriving DecidableEq, Repr

/-- The arguments of a fault, in order and by name. -/
structure Arguments where
  inOrder : List Value
  byName : Fields
  deriving Repr

namespace Arguments

/-- The arguments by the names of the parameters that they are for. Each has a parameter, and
no parameter has two. -/
def bind? (a : Arguments) (parameters : List Text) : Option Fields :=
  let first := parameters.zip a.inOrder
  let clashes := a.byName.keys.any fun name =>
    !parameters.contains name || (first.map Prod.fst).contains name
  if clashes || parameters.length < a.inOrder.length then none
  else some (.ofList (first ++ a.byName.entries))

end Arguments

namespace Report

def parameters : List Text := ["message", "component", "details"].map String.toList

/-- Details that are an object; those that count as nothing are none. Nothing else can be
shown as details. -/
def detailsOf (v : Value) : Except Fault (OrderedMap Label Value) :=
  match v with
  | .object members => .ok (Label.ofFields (.ofList members))
  | v => if v.isTruthy then .error .unshowable else .ok ∅

/-- The entry of details that an item of a list makes: two values, of which the first is the
label of the other. -/
def entryOf (position : Nat) (item : Value) : Except Fault (Label × Value) :=
  match item.items? with
  | none => .error .wrongType
  | some [key, v] =>
    match Label.ofValue? key with
    | some label => .ok (label, v)
    | none => .error .wrongType
  | some others => .error (.badEntry position others.length)

/-- The entries of details that the items of a list make, the first of which has the given
position. -/
def entriesOf (position : Nat) : List Value → Except Fault (List (Label × Value))
  | [] => .ok []
  | item :: rest => do
    let entry ← entryOf position item
    let entries ← entriesOf (position + 1) rest
    return entry :: entries

/-- Details that are copied: from an object, or from a list of entries. Those that count as
nothing are none. -/
def copiedDetailsOf (v : Value) : Except Fault (OrderedMap Label Value) :=
  match v with
  | .object members => .ok (Label.ofFields (.ofList members))
  | v =>
    if v.isTruthy then
      match v.items? with
      | some items => (entriesOf 0 items).map Label.ofList
      | none => .error .wrongType
    else .ok ∅

/-- The report that arguments make, with what they leave out taken from `base`. -/
def ofArguments (base : Report) (read : Value → Except Fault (OrderedMap Label Value))
    (arguments : Fields) : Except Fault Report := do
  let details ← read ((arguments.get? "details".toList).getD .null)
  return {
    message := (arguments.get? "message".toList).getD base.message
    component := (arguments.get? "component".toList).getD base.component
    details := details }

end Report

namespace Fault

def failureOf (make : Report → Fault) (a : Arguments) : Except Fault Fault :=
  match a.bind? Report.parameters with
  | none => .error .notCallable
  | some arguments =>
    match arguments.get? "message".toList with
    | none => .error .notCallable
    | some message =>
      (Report.ofArguments (.plain message) Report.detailsOf arguments).map make

/-- The refusal of a method made with the given arguments, all of which may be left out. -/
def refusalOf (a : Arguments) : Except Fault Fault :=
  match a.bind? ("method".toList :: Report.parameters) with
  | none => .error .notCallable
  | some arguments =>
    (Report.ofArguments .refusal Report.copiedDetailsOf arguments).map <|
      refuse ((arguments.get? "method".toList).getD .null)

def rejectionOf (a : Arguments) : Except Fault Fault :=
  if a.byName.isEmpty then
    match a.inOrder with
    | [] => .error .unreasoned
    | reason :: _ => .ok (.rejected reason.display)
  else .error .notCallable

/-- The fault of a kind with the given arguments, or the fault that making it is. -/
def make : FaultKind → Arguments → Except Fault Fault
  | .rejection, a => rejectionOf a
  | .failure, a => failureOf .failed a
  | .misconfiguration, a => failureOf .misconfigured a
  | .refusal, a => refusalOf a

def raised (kind : FaultKind) (a : Arguments) : Fault :=
  match make kind a with
  | .ok f => f
  | .error f => f

end Fault
end VerbDoc
