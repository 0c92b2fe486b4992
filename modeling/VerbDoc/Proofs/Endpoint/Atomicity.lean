import VerbDoc.Proofs.Endpoint.Options

/-!
# OPTIONS that fails

OPTIONS adds the Allow header before it collects the documentation, so that a failure in between
leaves the header behind. Main statement: this happens exactly where something that the class gives
for a verb cannot be documented, which takes an empty marker, a declaration that cannot be displayed
or a routine under the name that a class has for its base.
-/
namespace VerbDoc

/-! ## A header that is added is there -/

theorem Headers.add_ne_self (headers : Headers) (name : Text) (value : Value) :
    headers.add name value ≠ headers := by
  unfold add
  cases hstored : headers.stored? name with
  | some key =>
    have hmem := mem_keys_of_stored? hstored
    obtain ⟨values, hvalues⟩ : ∃ values, headers.get? key = some values := by
      rw [← Option.isSome_iff_exists]
      exact (headers.contains_iff_mem_keys key).2 hmem
    intro heq
    have hget := congrArg (fun h => h.get? key) heq
    simp [hvalues] at hget
  | none =>
    have hnew : name ∉ headers.keys := by
      intro hmem
      have hfound := List.find?_eq_none.1 hstored name hmem
      simp at hfound
    intro heq
    have hkeys := congrArg OrderedMap.keys heq
    rw [OrderedMap.keys_insert, if_neg hnew] at hkeys
    have hlength := congrArg List.length hkeys
    rw [List.length_append, List.length_singleton] at hlength
    omega

/-- A response with one more header is another response. -/
theorem Attached.not_isSame_addHeader (r : Response) (name : Text) (value : Value) :
    ¬(Attached.response (r.addHeader name value)).IsSame (.response r) := by
  intro hsame
  have hheaders := congrArg Response.headers (Attached.response.inj hsame)
  exact r.headers.add_ne_self name value hheaders

theorem Attached.isSame_refl (a : Attached) : a.IsSame a := by
  cases a with
  | foreign answering number state => exact ⟨rfl, rfl⟩
  | _ => rfl

/-! ## What cannot be documented -/

/-- What a class gives cannot be documented under a marker: its text has to be read with an empty
one, or what is declared of it cannot be displayed, or it is a base without a text or with something
in the place of a declaration. -/
def Reached.Refuses (marker : Text) : Reached → Prop
  | .operation o =>
    o.routine.declared = none ∧ marker = [] ∨ (Reached.operation o).isDisplayable = false
  | .parent p => p.isMisdeclared = true ∨ marker = [] ∨ ∃ f, p.text = .error f
  | .titled _ _ | .untitled _ => marker = []
  | .nothing => False

theorem Declaration.exists_documentation_eq_error_iff {d : Declaration} :
    (∃ f, d.documentation = .error f) ↔ d.isDisplayable = false := by
  unfold documentation
  cases d.isDisplayable <;> simp

theorem Documentation.readMarker_of_ne_nil {marker : Text} (h : marker ≠ []) :
    ∃ m, readMarker marker = .ok m := by
  cases marker with
  | nil => exact absurd rfl h
  | cons c rest => exact ⟨⟨c :: rest, h⟩, rfl⟩

/-- What has no declaration is documented by its text under a marker. -/
theorem Reached.exists_document_eq_error_iff_of_undeclared {reached : Reached} {marker : Text}
    (hdeclared : reached.declared = .ok none) :
    (∃ f, (reached.document (.ok marker)).1 = .error f) ↔
      marker = [] ∨ ∃ f, reached.text = .error f := by
  unfold document
  rw [hdeclared]
  simp only [bind, Except.bind]
  by_cases hmarker : marker = []
  · subst hmarker
    simp [Documentation.readMarker, Marker.ofText?]
  · obtain ⟨m, hm⟩ := Documentation.readMarker_of_ne_nil hmarker
    cases htext : reached.text with
    | ok t => simp [hm, hmarker, pure, Except.pure]
    | error f => simp [hm]

/-- The documentation of what a class gives cannot be read exactly where that refuses. -/
theorem Reached.exists_document_eq_error_iff {reached : Reached} {marker : Text}
    (hgiven : reached ≠ .nothing) :
    (∃ f, (reached.document (.ok marker)).1 = .error f) ↔ reached.Refuses marker := by
  cases reached with
  | operation o =>
    cases hdeclared : o.routine.declared with
    | some declaration =>
      have hsome : (operation o).declared = .ok (some declaration) := by rw [declared, hdeclared]
      simp only [document, Refuses, isDisplayable, hsome, hdeclared, reduceCtorEq, false_and,
        false_or]
      exact declaration.exists_documentation_eq_error_iff
    | none =>
      have hnone : (operation o).declared = .ok none := by rw [declared, hdeclared]
      rw [exists_document_eq_error_iff_of_undeclared hnone]
      simp [text, Refuses, isDisplayable, hnone, hdeclared]
  | parent p =>
    cases hmis : p.isMisdeclared with
    | true => simp [document, declared, hmis, Refuses]
    | false =>
      have hnone : (parent p).declared = .ok none := by simp [declared, hmis]
      rw [exists_document_eq_error_iff_of_undeclared hnone]
      simp [text, Refuses, hmis]
  | titled title described =>
    rw [exists_document_eq_error_iff_of_undeclared rfl]
    simp [text, Refuses]
  | untitled described =>
    rw [exists_document_eq_error_iff_of_undeclared rfl]
    simp [text, Refuses]
  | nothing => exact absurd rfl hgiven

/-- Where an operation is found for a verb, the documentation of the verb cannot be read exactly
where what the class gives for the operation refuses. -/
theorem Lineage.exists_document_eq_error_iff {l : Lineage} {marker verb : Text}
    (hsearch : l.search verb = .ok (l.operation? verb)) :
    (∃ f, (l.document (.ok marker) verb).1 = .error f) ↔
      ∃ o, l.operation? verb = some o ∧ (l.reach o).Refuses marker := by
  unfold document
  rw [hsearch]
  cases ho : l.operation? verb with
  | none => simp [Except.map]
  | some o =>
    simp only [Except.map, Option.map_some, Option.some.injEq, exists_eq_left']
    cases hreach : l.reach o with
    | nothing => simp [Reached.Refuses]
    | _ =>
      rw [← Reached.exists_document_eq_error_iff (by simp)]

namespace Lineage

variable {l : Lineage} {verb : Text}

/-- Under a marker only the base of a class refuses, and what is declared and cannot be shown. -/
theorem refuses_of_marker {marker : Text} (hmarker : marker ≠ []) {o : Operation}
    (hrefuses : (l.reach o).Refuses marker) :
    o.name = Operation.parentName ∨ (l.reach o).isDisplayable = false := by
  by_cases hname : o.name = Operation.parentName
  · exact .inl hname
  · refine .inr ?_
    -- Nothing else is a base.
    have hother : ∀ p, l.reach o ≠ .parent p := by
      intro p hparent
      unfold reach at hparent
      rw [if_neg (show ¬(o.name == Operation.parentName) = true by simpa using hname)] at hparent
      repeat' split at hparent
      all_goals cases hparent
    cases hreach : l.reach o with
    | operation given =>
      rw [hreach] at hrefuses
      exact hrefuses.resolve_left fun hbare => hmarker hbare.2
    | parent p => exact absurd hreach (hother p)
    | titled title described =>
      rw [hreach] at hrefuses
      exact absurd hrefuses hmarker
    | untitled described =>
      rw [hreach] at hrefuses
      exact absurd hrefuses hmarker
    | nothing =>
      rw [hreach] at hrefuses
      exact absurd hrefuses id

/-- The first name for the verb of a base stays the same when the operations are gone through. -/
theorem nameFor?_of_listed {o : Operation} (ho : l.listed.operation? verb = some o)
    (hname : o.name = Operation.parentName) : l.nameFor? verb = some Operation.parentName := by
  have hverb : o.verb = verb := by simpa using List.find?_some ho
  obtain ⟨first, hfirst⟩ : ∃ first, l.operation? verb = some first := by
    rw [← hverb]
    exact exists_operation?_of_mem (operations_listed_subset (List.mem_of_find?_eq_some ho))
  have htypes : first.name ≠ SpecialName.types := by
    intro heq
    have hsame : first.verb = verb := by simpa using List.find?_some hfirst
    rw [← hverb, Operation.verb, Operation.verb, heq, hname] at hsame
    exact absurd hsame (by decide +kernel)
  have hlisted := operation?_listed hfirst htypes
  rw [ho] at hlisted
  obtain rfl := Option.some.inj hlisted
  rw [← map_name_operation?, hfirst, Option.map_some, hname]

end Lineage

namespace Endpoint

variable {e : Endpoint} {config : Configuration}

/-- OPTIONS fails and has attached something else. -/
def FailsAfterHeader (e : Endpoint) : Prop :=
  (∃ f, (e.callMethod Builtin.options.name).result = .error f) ∧
    ¬(e.callMethod Builtin.options.name).response.IsSame e.response

/-- Something that the class gives for a verb refuses to be documented, once the operations have
been gone through. -/
def RefusesDocumentation (e : Endpoint) (config : Configuration) : Prop :=
  ∃ verb ∈ e.lineage.implementedVerbs config.verbs, ∃ o,
    e.lineage.listed.operation? verb = some o ∧ (e.lineage.listed.reach o).Refuses config.marker

/-- Adding the header gives something else, every operation is given, and what the class gives for a
verb refuses to be documented. -/
structure RefusesAfterHeader (e : Endpoint) (config : Configuration) : Prop where
  added : ∃ attached, e.allowing (e.lineage.implementedVerbs config.verbs) = .ok attached ∧
    ¬attached.IsSame e.response
  not_withheld : ∀ o ∈ e.lineage.operations, e.lineage.withholds o = false
  refuses : e.RefusesDocumentation config

/-- Where OPTIONS fails and does not leave the response, the header has been added, and then the
documentation was refused. -/
theorem refuses_of_changed (h : e.ServesOptions config) {f : Fault}
    (hf : (e.callMethod Builtin.options.name).result = .error f)
    (hchanged : (e.callMethod Builtin.options.name).response ≠ e.response) :
    e.allowing (e.lineage.implementedVerbs config.verbs) =
        .ok (e.callMethod Builtin.options.name).response ∧
      (∀ o ∈ e.lineage.operations, e.lineage.withholds o = false) ∧
      e.RefusesDocumentation config := by
  rw [RefusesDocumentation, Lineage.implementedVerbs_eq]
  rw [h.callMethod_options] at hchanged ⊢
  -- Whatever fails before the header is added leaves the response alone.
  have haccepts : e.response.acceptsHeaders = true := by
    cases haccepts : e.response.acceptsHeaders with
    | true => rfl
    | false =>
      rw [h.options_of_not_accepts haccepts] at hchanged
      exact absurd rfl hchanged
  have hopen : ∀ o ∈ e.lineage.operations, e.lineage.withholds o = false := by
    intro o ho
    rw [← Bool.not_eq_true]
    intro hwithheld
    rw [h.options_of_withholds haccepts ho hwithheld] at hchanged
    exact hchanged rfl
  cases hallow : e.allowing (e.lineage.verbs config.verbs) with
  | error g =>
    have hendpoint := (h.options_of_not_allowing haccepts hopen hallow).1
    rw [Run.response, Run.bind, hendpoint] at hchanged
    exact absurd rfl hchanged
  | ok attached =>
    rcases e.lineage.listed.readable_or (.ok config.marker) (e.lineage.verbs config.verbs) with
      ⟨docOf, hdocs⟩ | ⟨verb, hverb, hunread⟩
    · obtain ⟨-, hresult⟩ := h.options_of_documents hopen hallow hdocs
      rw [h.result_callMethod_options hresult] at hf
      cases hf
    · obtain ⟨g, hg⟩ := hunread
      obtain ⟨hresponse, -⟩ := h.options_of_unreadable hopen hallow hverb hg
      refine ⟨congrArg _ hresponse.symm, hopen, verb, hverb, ?_⟩
      exact (Lineage.exists_document_eq_error_iff (Lineage.search_listed hopen verb)).1 ⟨g, hg⟩

theorem refuses_of_failsAfterHeader (h : e.ServesOptions config) (hfails : e.FailsAfterHeader) :
    e.RefusesAfterHeader config := by
  obtain ⟨⟨f, hf⟩, hother⟩ := hfails
  obtain ⟨hallow, hopen, hrefuses⟩ := refuses_of_changed h hf fun hsame =>
    hother (hsame ▸ e.response.isSame_refl)
  exact ⟨⟨_, hallow, hother⟩, hopen, hrefuses⟩

theorem failsAfterHeader_of_refuses (h : e.ServesOptions config)
    (hrefuses : e.RefusesAfterHeader config) : e.FailsAfterHeader := by
  obtain ⟨⟨attached, hallow, hother⟩, hopen, verb, hverb, hrefused⟩ := hrefuses
  rw [Lineage.implementedVerbs_eq] at hallow hverb
  obtain ⟨f, hf⟩ :=
    (Lineage.exists_document_eq_error_iff (Lineage.search_listed hopen verb)).2 hrefused
  obtain ⟨hresponse, g, hg⟩ := h.options_of_unreadable hopen hallow hverb hf
  rw [FailsAfterHeader, h.callMethod_options]
  refine ⟨⟨g, ?_⟩, ?_⟩
  · rw [Run.bind, hg]
    rfl
  · rw [← hresponse] at hother
    exact hother

/-- OPTIONS that fails leaves something else attached exactly where adding the Allow header gives
something else and then something that the class gives for a verb refuses to be documented. Under a
marker, where what is declared can be displayed and no verb is that of the base of the class, it
leaves the response as it was. -/
theorem failsAfterHeader_iff (h : e.ServesOptions config) :
    (e.FailsAfterHeader ↔ e.RefusesAfterHeader config) ∧
    (config.marker ≠ [] → e.lineage.DisplaysDeclared config.verbs →
      (∀ verb ∈ config.verbs, e.lineage.nameFor? verb ≠ some Operation.parentName) →
      ∀ f, (e.callMethod Builtin.options.name).result = .error f →
        (e.callMethod Builtin.options.name).response = e.response) := by
  refine ⟨⟨refuses_of_failsAfterHeader h, failsAfterHeader_of_refuses h⟩, ?_⟩
  intro hmarker hdisplays hbase f hf
  by_cases hsame : (e.callMethod Builtin.options.name).response = e.response
  · exact hsame
  · obtain ⟨-, -, verb, hverb, o, ho, hrefused⟩ := refuses_of_changed h hf hsame
    have hlisted : verb ∈ config.verbs := by simpa using (List.mem_filter.1 hverb).2
    rcases Lineage.refuses_of_marker hmarker hrefused with hname | hoverlong
    · exact absurd (Lineage.nameFor?_of_listed ho hname) (hbase verb hlisted)
    · rw [hdisplays verb hlisted o ho] at hoverlong
      cases hoverlong

def unmarked : Configuration := { Configuration.standard with marker := [] }

theorem failsAfterHeader_blog :
    (fresh .blog unmarked).ServesOptions unmarked ∧ (fresh .blog unmarked).FailsAfterHeader := by
  have hserves : (fresh .blog unmarked).ServesOptions unmarked :=
    .fresh unmarked rfl rfl rfl (by decide) rfl rfl rfl
  have hrefuses : (fresh .blog unmarked).RefusesAfterHeader unmarked := by
    refine ⟨⟨_, rfl, Attached.not_isSame_addHeader _ _ _⟩, by decide +kernel, "GET".toList,
      by decide +kernel, _, rfl, .inl ⟨rfl, rfl⟩⟩
  exact ⟨hserves, (failsAfterHeader_iff hserves).1.2 hrefuses⟩

end Endpoint
end VerbDoc
