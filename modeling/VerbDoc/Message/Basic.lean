import VerbDoc.Message.Headers
import VerbDoc.Value.Checked
import VerbDoc.Value.Reading

/-!
# Requests and responses

Both are immutable records. A record built from fields is checked; the copies made of a response
are not checked again, so that they may hold values of any type.
-/
namespace VerbDoc

/-- An incoming request. -/
structure Request where
  headers : Headers
  method : Text
  path : Text
  queryParams : Fields
  body : Value
  deriving Repr

/-- An outgoing response. -/
structure Response where
  headers : Headers
  statusCode : Value
  reasonPhrase : Value
  deriving Repr

def Value.asHeaders? : Value → Option Headers :=
  Value.asMapping? fun v => (Value.asTexts? v).map fun texts => texts.map .text

def Headers.toValue (headers : Headers) : Value :=
  .object (headers.mapValues .list).entries

namespace Request

def fieldNames : List Text :=
  ["headers", "method", "path", "query_params", "body"].map String.toList

def fieldValues (r : Request) : List Value :=
  [r.headers.toValue, .text r.method, .text r.path, .object r.queryParams.entries, r.body]

def standard : Request := ⟨∅, "GET".toList, "/".toList, ∅, .null⟩

def ofFields (fields : Fields) : Except Fault Request :=
  Checked.toExcept <|
    Request.mk
      <$> fields.check "headers".toList Value.asHeaders? standard.headers
      <*> fields.check "method".toList Value.asText? standard.method
      <*> fields.check "path".toList Value.asText? standard.path
      <*> fields.check "query_params".toList (Value.asMapping? some) standard.queryParams
      <*> fields.check "body".toList some standard.body

end Request

namespace Response

def fieldNames : List Text :=
  ["headers", "status_code", "reason_phrase"].map String.toList

def fieldValues (r : Response) : List Value :=
  [r.headers.toValue, r.statusCode, r.reasonPhrase]

def ofFields (fields : Fields) : Except Fault Response :=
  Checked.toExcept <|
    Response.mk
      <$> fields.check "headers".toList Value.asHeaders? ∅
      <*> fields.check "status_code".toList (fun v => (Value.asInt? v).map .int) (.int 200)
      <*> fields.check "reason_phrase".toList
        (fun v => (Value.asText? v).map .text) (.text [])

def setHeader (r : Response) (name : Text) (value : Value) : Response :=
  { r with headers := r.headers.replace name value }

def addHeader (r : Response) (name : Text) (value : Value) : Response :=
  { r with headers := r.headers.add name value }

def setStatus (r : Response) (code reason : Value) : Response :=
  { r with statusCode := code, reasonPhrase := reason }

end Response
end VerbDoc
