import VerbDoc.Fault
import VerbDoc.OrderedMap.Lemmas

/-!
# Records behind their fields

A record has checked fields, but a caller may assign to names that are no fields and reach what
lies behind them: all attributes at once, what is asked for attributes that are missing, and what
a copy is made from. Nothing assigned in this way is checked.
-/
namespace VerbDoc

/-- A name that starts with an underscore is outside the fields of every record. -/
def isPrivateName (name : Text) : Bool := name.head? == some '_'

/-- A record as it is held, with attributes of any type. -/
structure Record where
  attributes : Fields
  /-- What is asked for an attribute that is missing. Null is not asked. -/
  extra : Value
  /-- What has taken the place of the note of which fields have been given. -/
  given : Option Value
  /-- What a record keeps beside its attributes. A copy takes it along, entry by entry. -/
  hidden : Value
  deriving Repr

namespace Record

def ofFields (attributes : Fields) : Record := ⟨attributes, .null, none, .null⟩

def extraName : Text := "__pydantic_extra__".toList

def givenName : Text := "__pydantic_fields_set__".toList

def hiddenName : Text := "__pydantic_private__".toList

def hidingName : Text := "__private_attributes__".toList

def assignersName : Text := "__pydantic_setattr_handlers__".toList

def findAssignerName : Text := "_setattr_handler".toList

def copyingName : Text := "model_config".toList

def computedNames : List Text :=
  ["__weakref__", "__fields__", "__fields_set__"].map String.toList

/-- An operation of the record's class can be called, unless an attribute bears its name. -/
def checkOperation (r : Record) (name : Text) : Except Fault Unit :=
  if r.attributes.contains name then .error .notCallable else .ok ()

/-- It can be found out how to assign to a name. An object in the place of what says so may be in
the way, and anything else in that place is. -/
def checkAssigner (r : Record) (name : Text) : Except Fault Unit :=
  match r.attributes.get? assignersName with
  | none => r.checkOperation findAssignerName
  | some (.object members) =>
    match OrderedMap.find name members with
    | none | some .null => r.checkOperation findAssignerName
    | some _ => .error .notCallable
  | some _ => .error .missingAttribute

/-- The record after an assignment to a name that is no field. The class of a record stays, and
only an object can take the place of all attributes. -/
def assign (r : Record) (name : Text) (v : Value) : Except Fault Record :=
  if name = "__class__".toList then .error .wrongType
  else if name = "__dict__".toList then
    match v with
    | .object members => .ok { r with attributes := .ofList members }
    | _ => .error .wrongType
  else if computedNames.contains name then .error .missingAttribute
  else if name = extraName then .ok { r with extra := v }
  else if name = givenName then .ok { r with given := some v }
  else if name = hiddenName then .ok { r with hidden := v }
  else .ok { r with attributes := r.attributes.insert name v }

/-- The record after an assignment, where the record cannot change. Every name that could be a
field is refused, whether or not the record has it. -/
def assignFixed (r : Record) (name : Text) (v : Value) : Except Fault Record := do
  r.checkAssigner name
  if isPrivateName name then r.assign name v else throw (.invalidFields [name])

/-- A value can be asked whether it names something. -/
def isNamedBy (name : Text) (v : Value) : Except Fault Bool :=
  match v.names? name with
  | some named => .ok named
  | none => .error .wrongType

/-- The entry of a value under a name. Only an object has entries under names. -/
def entryOf (v : Value) (name : Text) : Except Fault Value :=
  match v with
  | .object members =>
    match OrderedMap.find name members with
    | some v => .ok v
    | none => .error .missingAttribute
  | _ => .error .wrongType

/-- What is asked for a missing attribute answers with an entry under its name. What counts as
nothing is not asked. -/
def getExtra (r : Record) (name : Text) : Except Fault Value := do
  if !r.extra.isTruthy then throw .missingAttribute
  if ← isNamedBy name r.extra then entryOf r.extra name else throw .missingAttribute

/-- The value of a missing attribute. What says that it is a hidden one comes first. -/
def getMissing (r : Record) (name : Text) : Except Fault Value := do
  match r.attributes.get? hidingName with
  | none => r.getExtra name
  | some listed =>
    if ← isNamedBy name listed then
      let _ ← entryOf listed name
      entryOf r.hidden name
    else r.getExtra name

def get (r : Record) (name : Text) : Except Fault Value :=
  match r.attributes.get? name with
  | some v => .ok v
  | none => r.getMissing name

/-- What a record keeps beside its attributes can be taken along by a copy. -/
def checkHidden (r : Record) : Except Fault Unit :=
  match r.hidden with
  | .null | .object _ => .ok ()
  | _ => .error .missingAttribute

/-- The note of which fields have been given accepts the names that a copy changes. An object in
its place takes the first of them for an entry. -/
def checkGiven (r : Record) (names : List Text) : Except Fault Unit :=
  match r.given, names with
  | none, _ => .ok ()
  | some (.object _), [] => .ok ()
  | some (.object _), name :: _ => .error (.badEntry 0 name.length)
  | some _, _ => .error .missingAttribute

/-- What says how a record is to be copied is an object. -/
def checkCopying (r : Record) : Except Fault Unit :=
  match r.attributes.get? copyingName with
  | none | some (.object _) => .ok ()
  | some _ => .error .missingAttribute

def copyOperations : List Text := ["model_copy", "__copy__"].map String.toList

def copyWith (r : Record) (changes : List (Text × Value)) : Except Fault Record := do
  copyOperations.forM r.checkOperation
  r.checkHidden
  r.checkCopying
  r.checkGiven (changes.map Prod.fst)
  return { r with attributes := changes.foldl (fun a e => a.insert e.1 e.2) r.attributes }

/-- A step that succeeds hands on to the next. -/
theorem of_bind_eq_ok {α β : Type} {first : Except Fault α} {next : α → Except Fault β} {b : β}
    (h : first.bind next = .ok b) : ∃ a, first = .ok a ∧ next a = .ok b := by
  cases first with
  | error f => cases h
  | ok a => exact ⟨a, rfl, h⟩

/-- What a step gives that succeeds has been made from something. -/
theorem of_map_eq_ok {α β : Type} {step : Except Fault α} {f : α → β} {b : β}
    (h : step.map f = .ok b) : ∃ a, step = .ok a ∧ f a = b := by
  cases step with
  | error g => cases h
  | ok a => exact ⟨a, rfl, Except.ok.inj h⟩

end Record
end VerbDoc
