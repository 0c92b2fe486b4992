import VerbDoc.Message.Basic
import VerbDoc.Record

/-!
# Messages

A message is a request or a response. One that has been opened by an assignment behind its fields
may hold anything, and its operations find out what they meet on the way. Main statement: an opened
message finds its headers under the spellings of an intact one.
-/
namespace VerbDoc

/-- The kinds of message. -/
inductive MessageKind where
  | request | response
  deriving DecidableEq, Repr

/-- A message, intact or opened. -/
inductive Message where
  | request (r : Request)
  | response (r : Response)
  | opened (kind : MessageKind) (record : Record)
  deriving Repr

namespace Message

def ofFields (kind : MessageKind) (fields : Fields) : Except Fault Message :=
  match kind with
  | .request => (Request.ofFields fields).map .request
  | .response => (Response.ofFields fields).map .response

def kind : Message → MessageKind
  | .request _ => .request
  | .response _ => .response
  | .opened kind _ => kind

def record : Message → Record
  | .request r => .ofFields (.ofList (Request.fieldNames.zip r.fieldValues))
  | .response r => .ofFields (.ofList (Response.fieldNames.zip r.fieldValues))
  | .opened _ record => record

/-! ## Fields -/

def mappingNames : List Text := ["headers", "query_params"].map String.toList

/-- A field of a record as it is shown. Named values have to be an object. -/
def field (r : Record) (name : Text) : Except Fault (Text × Value) := do
  match ← r.get name with
  | .object members => return (name, .object members)
  | v => if mappingNames.contains name then throw .missingAttribute else return (name, v)

def fieldNames : MessageKind → List Text
  | .request => Request.fieldNames
  | .response => Response.fieldNames

def fields : Message → Except Fault (List (Text × Value))
  | .request r => .ok (Request.fieldNames.zip r.fieldValues)
  | .response r => .ok (Response.fieldNames.zip r.fieldValues)
  | .opened kind r => (fieldNames kind).mapM (field r)

/-- The message after an assignment, which fields do not allow. -/
def assign (m : Message) (name : Text) (v : Value) : Except Fault Message :=
  (m.record.assignFixed name v).map (.opened m.kind)

/-! ## Headers of an opened message -/

namespace Opened

def headers (r : Record) : Except Fault Value := r.get "headers".toList

def itemsOf (v : Value) : Except Fault (List Value) :=
  match v.items? with
  | some items => .ok items
  | none => .error .wrongType

/-- The first spelling that agrees with a name in lower case. Nothing but a text has one. -/
def findSpelling (name : Text) : List Value → Except Fault (Option Text)
  | [] => .ok none
  | .text key :: rest =>
    if Text.lower key == Text.lower name then .ok (some key) else findSpelling name rest
  | _ :: _ => .error .missingAttribute

/-- The spelling under which a header is stored in whatever holds the headers. -/
def stored? (headers name : Value) : Except Fault (Option Text) := do
  let wanted ← Headers.nameOf name
  findSpelling wanted (← itemsOf headers)

theorem findSpelling_of_texts (name : Text) (keys : List Text) :
    findSpelling name (keys.map .text) =
      .ok (keys.find? fun key => Text.lower key == Text.lower name) := by
  induction keys with
  | nil => rfl
  | cons key rest ih =>
    rw [List.map_cons, findSpelling, List.find?_cons, ih]
    cases Text.lower key == Text.lower name <;> rfl

/-- Headers that have not been tampered with are stored under their own spellings. -/
theorem stored?_toValue (headers : Headers) (name : Text) :
    stored? headers.toValue (.text name) = .ok (headers.stored? name) := by
  have hitems : itemsOf headers.toValue = .ok (headers.keys.map .text) := by
    simp [itemsOf, Headers.toValue, Value.items?, OrderedMap.keys, OrderedMap.mapValues,
      Function.comp_def]
  simp only [stored?, Headers.nameOf, hitems, bind, Except.bind]
  exact findSpelling_of_texts name headers.keys

/-- The values of a header. Only an object has any. -/
def values (headers name : Value) : Except Fault (List Value) := do
  match ← stored? headers name, headers with
  | none, _ => return []
  | some key, .object members => itemsOf ((OrderedMap.find key members).getD .null)
  | some _, _ => throw .wrongType

def asHeaders : Value → Except Fault Headers
  | .object members => do
    return .ofList (← members.mapM fun e => return (e.1, ← itemsOf e.2))
  | _ => .error .missingAttribute

def withHeaders (r : Record) (name : Value) (change : Headers → Text → Headers) :
    Except Fault Record := do
  let headers ← asHeaders (← headers r)
  let name ← Headers.nameOf name
  r.copyWith [("headers".toList, (change headers name).toValue)]

end Opened

/-! ## Operations -/

def addHeaderName : Text := "with_added_header".toList

def hasHeader (m : Message) (name : Value) : Except Fault Bool :=
  match m with
  | .request r => (Headers.nameOf name).map r.headers.has
  | .response r => (Headers.nameOf name).map r.headers.has
  | .opened _ r => do
    r.checkOperation "has_header".toList
    return (← Opened.stored? (← Opened.headers r) name).isSome

def headerValues (m : Message) (name : Value) : Except Fault (List Value) :=
  match m with
  | .request r => (Headers.nameOf name).map r.headers.values
  | .response r => (Headers.nameOf name).map r.headers.values
  | .opened _ r => do
    r.checkOperation "get_header".toList
    Opened.values (← Opened.headers r) name

def headerLine (m : Message) (name : Value) : Except Fault Text :=
  match m with
  | .request r => (Headers.nameOf name).bind r.headers.line
  | .response r => (Headers.nameOf name).bind r.headers.line
  | .opened _ r => do
    r.checkOperation "get_header_line".toList
    match (← m.headerValues name).mapM Value.asText? with
    | some texts => return Text.listed texts
    | none => throw .wrongType

/-- A message is a response if headers can be added to it. -/
def isResponse : Message → Except Fault Bool
  | .request _ => .ok false
  | .response _ => .ok true
  | .opened .response r => .ok (!r.attributes.contains addHeaderName)
  | .opened .request r =>
    match r.get addHeaderName with
    | .ok _ | .error .missingAttribute => .ok false
    | .error f => .error f

/-- The fault of an operation that a message has not. An attribute of its name is none. -/
def lacking (m : Message) (operation : Text) : Fault :=
  match m.record.get operation with
  | .ok _ => .notCallable
  | .error f => f

def changed (m : Message) (operation : Text) (intact : Response → Except Fault Response)
    (opened : Record → Except Fault Record) : Except Fault Message :=
  match m with
  | .response r => (intact r).map .response
  | .opened .response r => do
    r.checkOperation operation
    return .opened .response (← opened r)
  | _ => .error (m.lacking operation)

def addHeader (m : Message) (name value : Value) : Except Fault Message :=
  m.changed addHeaderName
    (fun r => (Headers.nameOf name).map fun t => r.addHeader t value)
    fun r => Opened.withHeaders r name fun headers t => headers.add t value

def setHeader (m : Message) (name value : Value) : Except Fault Message :=
  m.changed "with_header".toList
    (fun r => (Headers.nameOf name).map fun t => r.setHeader t value)
    fun r => Opened.withHeaders r name fun headers t => headers.replace t value

def setStatus (m : Message) (code reason : Value) : Except Fault Message :=
  m.changed "with_status".toList (fun r => .ok (r.setStatus code reason))
    fun r => r.copyWith [("status_code".toList, code), ("reason_phrase".toList, reason)]

end Message
end VerbDoc
