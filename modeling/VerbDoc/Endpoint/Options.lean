import VerbDoc.Documentation.Parse
import VerbDoc.Endpoint.Attribute
import VerbDoc.Endpoint.Descriptor
import VerbDoc.Handler.Operation

/-!
# OPTIONS

OPTIONS adds an Allow header with the verbs that the endpoint implements and describes those that
are documented. Main statement: OPTIONS is refused, and leaves the endpoint as it is, where no
header can be added to the attached response.
-/
namespace VerbDoc

/-- The verbs of a whitelist that a class implements, and what is logged about them. None are
listed where the class withholds an operation. -/
def Lineage.listVerbs (l : Lineage) (whitelist : List Text) :
    Except Fault (List Text) × List Log.Event :=
  if l.operations.any l.withholds then (.error .missingAttribute, [])
  else (.ok (l.verbs whitelist), [.verbsListed l.className (l.verbs whitelist)])

/-- The documentation of what a class gives for a verb, under a marker, and what is logged about it.
A declaration wins over a text. -/
def Reached.document (reached : Reached) (marker : Except Fault Text) :
    Except Fault Documentation × List Log.Event :=
  match reached.declared with
  | .error f => (.error f, [])
  | .ok (some declaration) => (declaration.documentation, [])
  | .ok none =>
    let doc := do
      let m ← Documentation.readMarker (← marker)
      return m.parse (← reached.text)
    (doc, (doc.map Documentation.parseEvents).toOption.getD [])

/-- The documentation of a verb under a marker, and what is logged about it. A verb without a method
has none. -/
def Lineage.document (l : Lineage) (marker : Except Fault Text) (verb : Text) :
    Except Fault Documentation × List Log.Event :=
  match (l.search verb).map (Option.map l.reach) with
  | .error f => (.error f, [])
  | .ok none | .ok (some .nothing) => (.ok ∅, [])
  | .ok (some reached) => reached.document marker

namespace Endpoint

/-- The endpoint after someone has gone through these operations of its class. -/
def afterPassing (e : Endpoint) (passed : List Operation) : Endpoint :=
  { e with lineage := e.lineage.afterPassing passed }

/-- The documentation of a verb. A class or an object may have something else under the name of
this operation. A method of the object itself is given the verb, and so is one of the class that
takes a name; nothing else can be called for one. -/
def documentVerb (e : Endpoint) (verb : Text) : Run Documented :=
  match e.read Builtin.documentVerb.name with
  | (after, .error f) => ⟨after, .error f, []⟩
  | (after, .ok (.inherited (.builtin .documentVerb))) =>
    let (result, log) := after.lineage.document (after.configured.map (·.marker)) verb
    ⟨after.afterPassing (after.lineage.passed verb), result.map .documentation, log⟩
  | (after, .ok (.inherited (.member (.routine ⟨.objectAndName, _, _, body⟩)))) =>
    let (final, result) := after.runBody .objectAndName body
    ⟨final, result.map .given, []⟩
  | (after, .ok (.own m)) => ⟨after, m.callWithText.map .given, []⟩
  | (after, .ok _) => ⟨after, .error .notCallable, []⟩

def describe (e : Endpoint) : List Text → Descriptor → Run Descriptor
  | [], descriptor => ⟨e, .ok descriptor, []⟩
  | verb :: rest, descriptor =>
    let r := e.documentVerb verb
    match r.result with
    | .error f => ⟨r.endpoint, .error f, r.log⟩
    | .ok doc =>
      let more := r.endpoint.describe rest
        (if doc.isEmpty then descriptor else descriptor.document verb doc)
      { more with log := r.log ++ more.log }

def refuseOptions (e : Endpoint) : Run Descriptor where
  endpoint := e
  result := .error (.refuse (.text "OPTIONS".toList) .refusal)
  log := [.optionsRefused e.className]

def allowing (e : Endpoint) (verbs : List Text) : Except Fault Attached :=
  e.response.addHeader (.text "Allow".toList) (.text (Text.listed verbs))

/-- The answer to OPTIONS with these verbs, which were listed under a configuration. The Allow
header is added before the documentation is collected. -/
def optionsFor (e : Endpoint) (config : Configuration) (verbs : List Text) : Run Descriptor :=
  match e.allowing verbs with
  | .error f => ⟨e, .error f, []⟩
  | .ok attached =>
    let r := (e.attach attached).describe verbs ⟨config.contentTypes, config.acceptTypes, ∅⟩
    match r.result with
    | .error f => ⟨r.endpoint, .error f, r.log⟩
    | .ok descriptor =>
      ⟨r.endpoint, .ok descriptor,
        r.log ++ [.optionsAnswered e.className verbs descriptor.methods.keys]⟩

def optionsUnder (e : Endpoint) (config : Configuration) : Run Descriptor :=
  let listed := e.afterPassing e.lineage.operations
  match e.lineage.listVerbs config.verbs with
  | (.error f, log) => ⟨listed, .error f, log⟩
  | (.ok verbs, log) =>
    let r := listed.optionsFor config verbs
    { r with log := log ++ r.log }

/-- The answer to OPTIONS. It is refused before anything else is looked at where no header can be
added. -/
def options (e : Endpoint) : Run Descriptor :=
  match e.response.fault? with
  | some f => ⟨e, .error f, []⟩
  | none =>
    if e.response.acceptsHeaders then
      match e.configured with
      | .ok config => e.optionsUnder config
      | .error f => ⟨e, .error f, []⟩
    else e.refuseOptions

theorem options_of_not_acceptsHeaders {e : Endpoint} (hplace : e.response.fault? = none)
    (h : e.response.acceptsHeaders = false) : e.options = e.refuseOptions := by
  simp [options, hplace, h]

end Endpoint
end VerbDoc
