import VerbDoc.Endpoint.Call
import VerbDoc.Endpoint.Attribute
import VerbDoc.Proofs.Handler.Passing

/-!
# Describing verbs

An endpoint whose class and attributes leave the answer to OPTIONS alone looks verbs up in its class
and has a configuration of its own. Main statements: an endpoint is such a one when it is created,
and once the operations of its class have been gone through, describing verbs leaves it as it is.
The description fails where the documentation of a verb does, and otherwise has the documentation of
each verb that has any.
-/
namespace VerbDoc

/-- Either the documentation of all verbs can be read, or that of some verb cannot. -/
theorem Lineage.readable_or (l : Lineage) (marker : Except Fault Text) (verbs : List Text) :
    (∃ docOf : Text → Documentation, ∀ verb ∈ verbs,
      (l.document marker verb).1 = .ok (docOf verb)) ∨
    ∃ verb ∈ verbs, ∃ f, (l.document marker verb).1 = .error f := by
  by_cases hfails : ∃ verb ∈ verbs, ∃ f, (l.document marker verb).1 = .error f
  · exact .inr hfails
  · refine .inl ⟨fun verb => ((l.document marker verb).1.toOption).getD ∅, ?_⟩
    intro verb hverb
    cases hdoc : (l.document marker verb).1 with
    | ok doc =>
      dsimp only
      rw [hdoc]
      rfl
    | error f => exact absurd ⟨verb, hverb, f, hdoc⟩ hfails

namespace Lineage

/-- Either nothing is withheld, or some operation is. -/
theorem withheld_or (l : Lineage) :
    (∀ o ∈ l.operations, l.withholds o = false) ∨ ∃ o ∈ l.operations, l.withholds o = true := by
  by_cases hopen : ∀ o ∈ l.operations, l.withholds o = false
  · exact .inl hopen
  · simp only [Classical.not_forall, Bool.not_eq_false] at hopen
    obtain ⟨o, ho, hwithheld⟩ := hopen
    exact .inr ⟨o, ho, hwithheld⟩

theorem listVerbs_of_not_withheld {l : Lineage}
    (hopen : ∀ o ∈ l.operations, l.withholds o = false) (whitelist : List Text) :
    l.listVerbs whitelist =
      (.ok (l.verbs whitelist), [.verbsListed l.className (l.verbs whitelist)]) := by
  have hany : l.operations.any l.withholds = false := by
    rw [List.any_eq_false]
    intro o ho
    simp [hopen o ho]
  simp [listVerbs, hany]

theorem listVerbs_of_withholds {l : Lineage} {o : Operation} (ho : o ∈ l.operations)
    (hwithheld : l.withholds o = true) (whitelist : List Text) :
    l.listVerbs whitelist = (.error .missingAttribute, []) := by
  rw [listVerbs, if_pos (List.any_eq_true.2 ⟨o, ho, hwithheld⟩)]

/-- Verbs are listed exactly where no operation is withheld. -/
theorem listVerbs_eq_ok_iff {l : Lineage} {whitelist verbs : List Text} :
    (l.listVerbs whitelist).1 = .ok verbs ↔
      (∀ o ∈ l.operations, l.withholds o = false) ∧ verbs = l.verbs whitelist := by
  rcases l.withheld_or with hopen | ⟨o, ho, hwithheld⟩
  · rw [listVerbs_of_not_withheld hopen, and_iff_right hopen, Except.ok.injEq, eq_comm]
  · rw [listVerbs_of_withholds ho hwithheld]
    refine iff_of_false (by simp) fun hall => ?_
    rw [hall.1 o ho] at hwithheld
    cases hwithheld

end Lineage

/-- A description of documentation can be shown. -/
theorem Descriptor.isShowable_ofKeys (contentTypes acceptTypes : List Text)
    (docOf : Text → Documentation) (verbs : List Text) :
    isShowable ⟨contentTypes, acceptTypes, .ofKeys (fun v => .documentation (docOf v)) verbs⟩ =
      true := by
  rw [isShowable, List.all_eq_true]
  intro e he
  obtain ⟨verb, _, rfl⟩ := List.mem_map.1 he
  rfl

namespace Endpoint

/-- Neither the class nor the object has anything else in the place of OPTIONS, of what documents a
verb, of the response or of the configuration, and the class has no way of its own of reading
attributes, which would come before all of these. -/
structure ServesOptions (e : Endpoint) (config : Configuration) : Prop where
  reads_plainly : e.lineage.attribute? SpecialName.reading = none
  options_inherited : e.lineage.attribute? Builtin.options.name = some (.builtin .options)
  options_unhidden : e.attributes.get? Builtin.options.name = none
  documentVerb_inherited :
    e.lineage.attribute? Builtin.documentVerb.name = some (.builtin .documentVerb)
  documentVerb_unhidden : e.attributes.get? Builtin.documentVerb.name = none
  response_place : e.response.fault? = none
  configured : e.configured = .ok config

/-- An endpoint has a configuration where nothing hides the one it holds. -/
theorem configured_eq_ok_iff {e : Endpoint} {config : Configuration} :
    e.configured = .ok config ↔ e.attributes.contains configurationName = false ∧
      e.has configurationName = true ∧ e.configuration = config := by
  unfold configured
  cases e.attributes.contains configurationName <;> cases e.has configurationName <;> simp

/-- A class that redefines neither the two operations nor the way of reading attributes makes
endpoints that serve OPTIONS. -/
theorem ServesOptions.of_create {l : Lineage} {request : Request} {response : Attached}
    {config : Configuration} {e : Endpoint} (he : create l request response config = .ok e)
    (hreading : l.attribute? SpecialName.reading = none)
    (hoptions : l.attribute? Builtin.options.name = some (.builtin .options))
    (hdocument : l.attribute? Builtin.documentVerb.name = some (.builtin .documentVerb))
    (hresponse : response.fault? = none) : e.ServesOptions config := by
  have hmade : e = ⟨l, ∅, request, response, config,
      partNames.filter fun name => !hasPlace l name⟩ := by
    unfold create at he
    split at he
    · split at he
      · cases he
      · exact (Except.ok.inj he).symm
    · cases he
    · cases he
  subst hmade
  refine ⟨hreading, hoptions, rfl, hdocument, rfl, hresponse,
    configured_eq_ok_iff.2 ⟨rfl, ?_, rfl⟩⟩
  have hpart : configurationName ∈ partNames := by decide
  cases hplace : hasPlace l configurationName <;> simp [has, hplace, hpart]

variable {e : Endpoint} {config : Configuration}

namespace ServesOptions

/-- Going through the operations of the class and attaching something else change nothing of it. -/
theorem attach_listed (h : e.ServesOptions config) {attached : Attached}
    (hplace : attached.fault? = none) :
    ((e.afterPassing e.lineage.operations).attach attached).ServesOptions config where
  reads_plainly := (e.lineage.attribute?_listed (by decide)).trans h.reads_plainly
  options_inherited := (e.lineage.attribute?_listed (by decide)).trans h.options_inherited
  options_unhidden := h.options_unhidden
  documentVerb_inherited := (e.lineage.attribute?_listed (by decide)).trans h.documentVerb_inherited
  documentVerb_unhidden := h.documentVerb_unhidden
  response_place := hplace
  configured := by
    obtain ⟨hhidden, hhas, hconfig⟩ := configured_eq_ok_iff.1 h.configured
    refine configured_eq_ok_iff.2 ⟨hhidden, ?_, hconfig⟩
    have hplaces : hasPlace e.lineage.listed configurationName =
        hasPlace e.lineage configurationName := by
      rw [hasPlace, hasPlace, e.lineage.attribute?_listed (by decide)]
    rw [← hhas, has, has, ← hplaces]
    rfl

/-- What documents a verb looks it up in the class. -/
theorem documentVerb_eq (h : e.ServesOptions config) (hsettled : e.lineage.IsSettled)
    (verb : Text) :
    e.documentVerb verb =
      ⟨e, (e.lineage.document (.ok config.marker) verb).1.map .documentation,
        (e.lineage.document (.ok config.marker) verb).2⟩ := by
  have hpassed : e.afterPassing (e.lineage.passed verb) = e := by
    rw [afterPassing, hsettled verb]
  unfold documentVerb
  rw [read_builtin h.reads_plainly h.documentVerb_inherited h.documentVerb_unhidden]
  simp only [h.configured, hpassed]
  rfl

/-- A description has the documentation of each verb that has any, where all of it can be read. -/
theorem describe_of_ok (h : e.ServesOptions config) (hsettled : e.lineage.IsSettled)
    {docOf : Text → Documentation} {verbs : List Text}
    (hdocs : ∀ verb ∈ verbs, (e.lineage.document (.ok config.marker) verb).1 = .ok (docOf verb))
    (d : Descriptor) :
    (e.describe verbs d).endpoint = e ∧ (e.describe verbs d).result = .ok { d with
      methods := (verbs.filter fun verb => !(docOf verb).isEmpty).foldl
        (fun methods verb => methods.insert verb (.documentation (docOf verb))) d.methods } := by
  induction verbs generalizing d with
  | nil => exact ⟨rfl, rfl⟩
  | cons verb rest ih =>
    have hverb := hdocs verb (by simp)
    have hrest := fun d => ih (fun v hv => hdocs v (by simp [hv])) d
    rw [describe, h.documentVerb_eq hsettled, hverb]
    cases hempty : (docOf verb).isEmpty with
    | true =>
      rw [List.filter_cons_of_neg (by simp [hempty])]
      simp only [Except.map, Documented.isEmpty, hempty]
      exact hrest d
    | false =>
      rw [List.filter_cons_of_pos (by simp [hempty])]
      simp only [Except.map, Documented.isEmpty, hempty]
      exact hrest (d.document verb (.documentation (docOf verb)))

/-- A description fails where the documentation of a verb cannot be read. -/
theorem describe_of_error (h : e.ServesOptions config) (hsettled : e.lineage.IsSettled)
    {verbs : List Text} {verb : Text} (hverb : verb ∈ verbs) {f : Fault}
    (hf : (e.lineage.document (.ok config.marker) verb).1 = .error f) (d : Descriptor) :
    (e.describe verbs d).endpoint = e ∧ ∃ g, (e.describe verbs d).result = .error g := by
  induction verbs generalizing d with
  | nil => simp at hverb
  | cons first rest ih =>
    rw [describe, h.documentVerb_eq hsettled]
    cases hfirst : (e.lineage.document (.ok config.marker) first).1 with
    | error g => exact ⟨rfl, g, rfl⟩
    | ok doc =>
      rcases List.mem_cons.1 hverb with rfl | hverb
      · rw [hf] at hfirst
        cases hfirst
      · exact ih hverb _

end ServesOptions

/-! ## The course of OPTIONS -/

/-- A call of OPTIONS is answered where nothing else stands in its place. -/
theorem callMethod_options_of_inherited
    (hreading : e.lineage.attribute? SpecialName.reading = none)
    (hclass : e.lineage.attribute? Builtin.options.name = some (.builtin .options))
    (hown : e.attributes.get? Builtin.options.name = none) :
    e.callMethod Builtin.options.name = e.options.bind descriptorAnswer := by
  unfold callMethod
  rw [read_builtin hreading hclass hown]

/-- What headers can be added to is no missing place. -/
theorem fault?_of_accepts {attached : Attached} (haccepts : attached.acceptsHeaders = true) :
    attached.fault? = none := by
  cases attached with
  | missing looking => cases haccepts
  | _ => rfl

theorem accepts_of_response {r : Response} (hresponse : e.response = .response r) :
    e.response.acceptsHeaders = true := by
  rw [hresponse]
  rfl

theorem options_of_configured_of_withholds (hconfigured : e.configured = .ok config)
    (haccepts : e.response.acceptsHeaders = true) {o : Operation} (ho : o ∈ e.lineage.operations)
    (hwithheld : e.lineage.withholds o = true) :
    e.options = ⟨e.afterPassing e.lineage.operations, .error .missingAttribute, []⟩ := by
  unfold options
  rw [fault?_of_accepts haccepts, haccepts, hconfigured]
  simp only [if_true, optionsUnder, Lineage.listVerbs_of_withholds ho hwithheld]

namespace ServesOptions

theorem callMethod_options (h : e.ServesOptions config) :
    e.callMethod Builtin.options.name = e.options.bind descriptorAnswer :=
  callMethod_options_of_inherited h.reads_plainly h.options_inherited h.options_unhidden

/-- Where no header can be added, OPTIONS is refused. -/
theorem options_of_not_accepts (h : e.ServesOptions config)
    (haccepts : e.response.acceptsHeaders = false) : e.options = e.refuseOptions :=
  options_of_not_acceptsHeaders h.response_place haccepts

/-- Where an operation is withheld, OPTIONS fails before a header is added. -/
theorem options_of_withholds (h : e.ServesOptions config)
    (haccepts : e.response.acceptsHeaders = true) {o : Operation} (ho : o ∈ e.lineage.operations)
    (hwithheld : e.lineage.withholds o = true) :
    e.options = ⟨e.afterPassing e.lineage.operations, .error .missingAttribute, []⟩ :=
  options_of_configured_of_withholds h.configured haccepts ho hwithheld

end ServesOptions

theorem accepts_of_allowing {verbs : List Text} {attached : Attached}
    (hallow : e.allowing verbs = .ok attached) : e.response.acceptsHeaders = true :=
  Attached.acceptsHeaders_of_addHeader hallow

/-- What is attached after a header has been added is no missing place. -/
theorem fault?_of_allowing {verbs : List Text} {attached : Attached}
    (hallow : e.allowing verbs = .ok attached) : attached.fault? = none :=
  Attached.fault?_of_addHeader hallow

/-- Only what answers for itself may refuse a header where headers can be added. -/
theorem allowing_of_response {r : Response} (hresponse : e.response = .response r)
    (verbs : List Text) :
    e.allowing verbs =
      .ok (.response (r.addHeader "Allow".toList (.text (Text.listed verbs)))) := by
  rw [allowing, hresponse]
  rfl

theorem options_of_configured_of_not_allowing (hconfigured : e.configured = .ok config)
    (haccepts : e.response.acceptsHeaders = true)
    (hopen : ∀ o ∈ e.lineage.operations, e.lineage.withholds o = false) {f : Fault}
    (hrefused : e.allowing (e.lineage.verbs config.verbs) = .error f) :
    e.options.endpoint = e.afterPassing e.lineage.operations ∧ e.options.result = .error f := by
  have hlisted : (e.afterPassing e.lineage.operations).allowing (e.lineage.verbs config.verbs) =
      .error f := hrefused
  unfold options
  rw [fault?_of_accepts haccepts, haccepts, hconfigured]
  simp only [if_true, optionsUnder, Lineage.listVerbs_of_not_withheld hopen]
  unfold optionsFor
  rw [hlisted]
  exact ⟨rfl, rfl⟩

def blankDescriptor (config : Configuration) : Descriptor :=
  ⟨config.contentTypes, config.acceptTypes, ∅⟩

/-- Describing the verbs of the class, once its operations have been gone through and something has
been attached. -/
def describing (e : Endpoint) (config : Configuration) (attached : Attached) : Run Descriptor :=
  ((e.afterPassing e.lineage.operations).attach attached).describe (e.lineage.verbs config.verbs)
    (blankDescriptor config)

/-- Where nothing is withheld, the verbs are listed, the header is added, and then the verbs are
described. -/
theorem options_of_configured {attached : Attached} (hconfigured : e.configured = .ok config)
    (hopen : ∀ o ∈ e.lineage.operations, e.lineage.withholds o = false)
    (hallow : e.allowing (e.lineage.verbs config.verbs) = .ok attached) :
    e.options.endpoint = (e.describing config attached).endpoint ∧
      e.options.result = (e.describing config attached).result ∧
      e.options.log.head? =
        some (.verbsListed e.lineage.className (e.lineage.verbs config.verbs)) := by
  have hlisted : (e.afterPassing e.lineage.operations).allowing (e.lineage.verbs config.verbs) =
      .ok attached := hallow
  have haccepts := accepts_of_allowing hallow
  unfold options describing
  rw [fault?_of_accepts haccepts, haccepts, hconfigured]
  simp only [if_true, optionsUnder, Lineage.listVerbs_of_not_withheld hopen]
  unfold optionsFor
  rw [hlisted]
  dsimp only
  split
  · next hresult => exact ⟨rfl, hresult.symm, rfl⟩
  · next hresult => exact ⟨rfl, hresult.symm, rfl⟩

namespace ServesOptions

variable {attached : Attached}

/-- Where the response refuses the header, OPTIONS fails in the same way and leaves it attached. -/
theorem options_of_not_allowing (h : e.ServesOptions config)
    (haccepts : e.response.acceptsHeaders = true)
    (hopen : ∀ o ∈ e.lineage.operations, e.lineage.withholds o = false) {f : Fault}
    (hrefused : e.allowing (e.lineage.verbs config.verbs) = .error f) :
    e.options.endpoint = e.afterPassing e.lineage.operations ∧ e.options.result = .error f :=
  options_of_configured_of_not_allowing h.configured haccepts hopen hrefused

/-- Otherwise the header is added, and then the verbs are described. -/
theorem options_of_allowing (h : e.ServesOptions config)
    (hopen : ∀ o ∈ e.lineage.operations, e.lineage.withholds o = false)
    (hallow : e.allowing (e.lineage.verbs config.verbs) = .ok attached) :
    e.options.endpoint = (e.describing config attached).endpoint ∧
      e.options.result = (e.describing config attached).result :=
  have hcourse := options_of_configured h.configured hopen hallow
  ⟨hcourse.1, hcourse.2.1⟩

/-- Describing the verbs leaves what has been attached. -/
theorem endpoint_describing (h : e.ServesOptions config)
    (hopen : ∀ o ∈ e.lineage.operations, e.lineage.withholds o = false)
    (hplace : attached.fault? = none) :
    (e.describing config attached).endpoint =
      (e.afterPassing e.lineage.operations).attach attached := by
  have hserves := h.attach_listed hplace
  have hsettled := Lineage.isSettled_listed hopen
  rcases e.lineage.listed.readable_or (.ok config.marker) (e.lineage.verbs config.verbs) with
    ⟨docOf, hdocs⟩ | ⟨verb, hverb, f, hf⟩
  · exact (hserves.describe_of_ok hsettled hdocs (blankDescriptor config)).1
  · exact (hserves.describe_of_error hsettled hverb hf (blankDescriptor config)).1

/-- Where the documentation of every verb can be read, OPTIONS gives it and keeps the header. -/
theorem options_of_documents (h : e.ServesOptions config)
    (hopen : ∀ o ∈ e.lineage.operations, e.lineage.withholds o = false)
    (hallow : e.allowing (e.lineage.verbs config.verbs) = .ok attached)
    {docOf : Text → Documentation}
    (hdocs : ∀ verb ∈ e.lineage.verbs config.verbs,
      (e.lineage.listed.document (.ok config.marker) verb).1 = .ok (docOf verb)) :
    e.options.response = attached ∧ e.options.result = .ok { blankDescriptor config with
      methods := .ofKeys (fun verb => .documentation (docOf verb))
        ((e.lineage.verbs config.verbs).filter fun verb => !(docOf verb).isEmpty) } := by
  obtain ⟨hendpoint, hresult⟩ := h.options_of_allowing hopen hallow
  have hserves := h.attach_listed (fault?_of_allowing hallow)
  obtain ⟨hsame, hdescribed⟩ := hserves.describe_of_ok (Lineage.isSettled_listed hopen) hdocs
    (blankDescriptor config)
  constructor
  · rw [Run.response, hendpoint, describing, hsame]
    rfl
  · rw [hresult, describing, hdescribed, blankDescriptor, OrderedMap.foldl_insert_eq_ofKeys]

/-- Where the documentation of a verb cannot be read, OPTIONS fails and keeps the header. -/
theorem options_of_unreadable (h : e.ServesOptions config)
    (hopen : ∀ o ∈ e.lineage.operations, e.lineage.withholds o = false)
    (hallow : e.allowing (e.lineage.verbs config.verbs) = .ok attached)
    {verb : Text} (hverb : verb ∈ e.lineage.verbs config.verbs) {f : Fault}
    (hf : (e.lineage.listed.document (.ok config.marker) verb).1 = .error f) :
    e.options.response = attached ∧ ∃ g, e.options.result = .error g := by
  obtain ⟨hendpoint, hresult⟩ := h.options_of_allowing hopen hallow
  have hserves := h.attach_listed (fault?_of_allowing hallow)
  obtain ⟨hsame, g, hdescribed⟩ := hserves.describe_of_error (Lineage.isSettled_listed hopen) hverb
    hf (blankDescriptor config)
  refine ⟨?_, g, ?_⟩
  · rw [Run.response, hendpoint, describing, hsame]
    rfl
  · rw [hresult, describing, hdescribed]

/-- A description of documentation is an answer. -/
theorem result_callMethod_options (h : e.ServesOptions config) {verbs : List Text}
    {docOf : Text → Documentation}
    (hresult : e.options.result = .ok { blankDescriptor config with
      methods := .ofKeys (fun verb => .documentation (docOf verb)) verbs }) :
    (e.callMethod Builtin.options.name).result = .ok (.descriptor { blankDescriptor config with
      methods := .ofKeys (fun verb => .documentation (docOf verb)) verbs }) := by
  rw [h.callMethod_options, Run.bind, hresult]
  exact if_pos (Descriptor.isShowable_ofKeys _ _ docOf verbs)

end ServesOptions
end Endpoint

/-! ## Classes and endpoints to try it on -/

/-- A class that is derived from the first class of a lineage and has these members. -/
def Lineage.derive (l : Lineage) (name : Text) (members : List (Text × Member)) : Lineage :=
  .declared {
    number := l.length
    name := name
    title := name
    parent := l.asParent
    bases := (l.head?.map Ancestor.identity).toList
    members := .ofList members
    implied := [SpecialName.home, SpecialName.description]
    opened := []
    later := [] } :: l

/-- A class with a documented verb, a verb that hides one of its base, and a member that hides
another. -/
def Lineage.blog : Lineage :=
  (Lineage.derive [.base] "Post".toList
    [("get".toList, .routine ⟨.object, some "@apiUri /posts".toList, none, []⟩),
      ("put".toList, .routine ⟨.object, some "@apiUri /posts/1".toList, none, []⟩),
      ("patch".toList, .routine ⟨.object, none, none, []⟩)]).derive "Blog".toList
    [("get".toList, .routine ⟨.object, some "@apiUri /blog".toList, none, []⟩),
      ("patch".toList, .value .null)]

namespace Endpoint

/-- An endpoint of a class, as it is created with the standard request and an empty response. -/
def fresh (l : Lineage) (config : Configuration) : Endpoint :=
  ⟨l, ∅, .standard, .response ⟨∅, .int 200, .text []⟩, config,
    partNames.filter fun name => !hasPlace l name⟩

theorem ServesOptions.fresh {l : Lineage} (config : Configuration)
    (hnew : l.attribute? SpecialName.creation = none)
    (hinit : l.attribute? Builtin.create.name = some (.builtin .create))
    (hassign : l.attribute? SpecialName.assignment = none)
    (hparts : ∀ name ∈ partNames, hasProperty l name = false)
    (hreading : l.attribute? SpecialName.reading = none)
    (hoptions : l.attribute? Builtin.options.name = some (.builtin .options))
    (hdocument : l.attribute? Builtin.documentVerb.name = some (.builtin .documentVerb)) :
    (fresh l config).ServesOptions config :=
  .of_create (create_eq_ok _ _ config hnew hinit hassign hparts) hreading hoptions hdocument rfl

end Endpoint
end VerbDoc
