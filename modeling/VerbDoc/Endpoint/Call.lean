import VerbDoc.Endpoint.Options

/-!
# Calls on an endpoint

The calls that can be made on an endpoint, as data. Each call is a run; the runs of several calls
are made one after another, whether or not they fail. A call of HEAD runs GET for its effect on the
attached response and drops the result, so that an answer to it has an empty body.
-/
namespace VerbDoc

/-! ## HEAD -/

namespace Endpoint

def refuseHead (e : Endpoint) : Run Value where
  endpoint := e
  result := .error (.refuse (.text "HEAD".toList) .refusal)
  log := [.headRefused e.className]

def emptyBody : Value := .object []

/-- The answer to HEAD: GET is run for its effect on the response, and its result is dropped.
Without a GET that can be called, HEAD is refused; so it is when reading GET fails for lack of an
attribute. -/
def head (e : Endpoint) : Run Value :=
  match e.read "get".toList with
  | (after, .error .missingAttribute) => after.refuseHead
  | (after, .error f) => ⟨after, .error f, []⟩
  | (after, .ok found) =>
    if found.isCallable then
      let (final, result) := after.call found
      ⟨final, result.map fun _ => emptyBody, []⟩
    else after.refuseHead

end Endpoint

/-! ## Calls -/

/-- A call on an endpoint. -/
inductive Call where
  /-- Call the method of the given name. -/
  | method (name : Text)
  /-- Ask for what is attached. -/
  | currentResponse
  | document (verb : Text)
  /-- List the verbs of a whitelist, by default the configured one. -/
  | listVerbs (whitelist : Option (List Text))
  | findOperation (verb : Text)
  | setResponse (kind : Attached.Kind) (fields : Fields)
  /-- Configure the endpoint with these fields, which are an object. -/
  | setConfiguration (fields : Value)
  | showConfiguration

/-- What a call gives. -/
inductive Answer where
  | value (v : Value)
  | descriptor (d : Descriptor)
  | attached (a : Attached)
  /-- An object of which nothing is seen but the name of its type. -/
  | object (typeName : Text)
  | documentation (entries : List (Text × Value))
  | verbs (vs : List Text)
  | operation (title : Option Text)
  | configuration (c : Configuration)

namespace Answer

def asAttached : Answer → Answer
  | .value v => .attached (.ofValue v)
  | answer => answer

def ofOutcome : Outcome → Answer
  | .value v => .value v
  | .object className => .object className
  | .function _ => .object "function".toList

/-- What is attached as an answer: a plain value is its own. -/
def ofAttached : Attached → Except Fault Answer
  | .missing looking => .error looking
  | .value v => .ok (.value v)
  | a => .ok (.attached a)

end Answer

namespace Endpoint

/-- A run that leaves the endpoint alone. -/
def resting {α : Type} (e : Endpoint) (result : Except Fault α) (log : List Log.Event) : Run α :=
  ⟨e, result, log⟩

def descriptorAnswer (d : Descriptor) : Except Fault Answer :=
  if d.isShowable then .ok (.descriptor d) else .error .missingAttribute

/-- Calls the method of the given name. The operations of every endpoint that need arguments
cannot be called this way. -/
def callMethod (e : Endpoint) (name : Text) : Run Answer :=
  match e.read name with
  | (after, .error f) => after.resting (.error f) []
  | (after, .ok (.inherited (.builtin .head))) => after.head.map .value
  | (after, .ok (.inherited (.builtin .options))) => after.options.bind descriptorAnswer
  | (after, .ok (.inherited (.builtin .currentResponse))) =>
    after.resting (Answer.ofAttached after.response) []
  | (after, .ok found) =>
    let (final, result) := after.call found
    final.resting (result.map .ofOutcome) []

def list (e : Endpoint) (whitelist : List Text) : Run Answer :=
  let (verbs, log) := e.lineage.listVerbs whitelist
  (e.afterPassing e.lineage.operations).resting (verbs.map .verbs) log

def findOperation (e : Endpoint) (verb : Text) : Run Answer :=
  (e.afterPassing (e.lineage.passed verb)).resting
    ((e.lineage.operationTitle? verb).map .operation) []

def changing {α : Type} (e : Endpoint) (next : Except Fault α) (change : α → Endpoint) :
    Run Answer :=
  match next with
  | .ok a => (change a).resting (.ok (.value .null)) []
  | .error f => e.resting (.error f) []

def step (e : Endpoint) : Call → Run Answer
  | .method name => e.callMethod name
  | .currentResponse => (e.callMethod Builtin.currentResponse.name).map Answer.asAttached
  | .document verb =>
    (e.documentVerb verb).bind fun said => said.entries.map Answer.documentation
  | .listVerbs (some whitelist) => e.list whitelist
  | .listVerbs none =>
    match e.configured with
    | .ok config => e.list config.verbs
    | .error f => e.resting (.error f) []
  | .findOperation verb => e.findOperation verb
  | .setResponse kind fields => e.changing (Attached.build kind fields) e.replaceResponse
  | .setConfiguration fields => e.changing (Configuration.ofValue fields) e.configure
  | .showConfiguration => e.resting (e.configured.map .configuration) []

/-- The runs of the calls in order, failing ones included, and the endpoint at the end. -/
def runCalls (e : Endpoint) : List Call → Endpoint × List (Run Answer)
  | [] => (e, [])
  | call :: rest =>
    let run := e.step call
    let (final, runs) := run.endpoint.runCalls rest
    (final, run :: runs)

end Endpoint
end VerbDoc
