import VerbDoc.Proofs.Endpoint.Atomicity
import VerbDoc.Proofs.Handler.Relisting
import VerbDoc.Proofs.Settings.Complaining

/-!
# OPTIONS under settings that have been looked through

A configuration that is made of settings has a marker, so that no verb fails to be documented for
lack of one. What is left in the way of an answer to OPTIONS is a response that refuses the header,
a declaration that cannot be displayed and the class itself, under two names that have a meaning to
it. Main statement: complaints about settings say what the configuration can do, and under it
OPTIONS fails with nothing but its refusal exactly where none of these is in the way.
-/
namespace VerbDoc

/-- A base has a text that can be read, or none, and nothing in the place of a declaration. -/
def Parent.IsReadable (p : Parent) : Prop := p.isMisdeclared = false ∧ ∃ t, p.text = .ok t

/-- What cannot be displayed refuses to be documented under every marker. -/
theorem Reached.refuses_of_not_displayable {reached : Reached} {marker : Text}
    (hdisplayable : reached.isDisplayable = false) : reached.Refuses marker := by
  cases reached with
  | operation o => exact .inr hdisplayable
  | parent p =>
    rw [isDisplayable, declared] at hdisplayable
    cases hmis : p.isMisdeclared <;> simp [hmis] at hdisplayable
  | titled title described => cases hdisplayable
  | untitled described => cases hdisplayable
  | nothing => cases hdisplayable

namespace Lineage

variable {l : Lineage} {marker verb : Text} {whitelist : List Text}

/-- What a class has to do with an answer to OPTIONS: the routine under the name of what it has yet
to define is its own if there is one, its base can be read if a verb is documented by it, and what
is declared can be displayed. -/
structure LetsAnswer (l : Lineage) (whitelist : List Text) : Prop where
  open_defined : Operation.openName ∈ l.routineNames → (l.own? Operation.openName).isSome = true
  base_readable : ∀ verb ∈ whitelist, l.nameFor? verb = some Operation.parentName →
    l.parent.IsReadable
  declared_displayed : l.DisplaysDeclared whitelist

theorem AvoidsClassNames.letsAnswer (h : l.AvoidsClassNames whitelist)
    (hdisplays : l.DisplaysDeclared whitelist) : l.LetsAnswer whitelist where
  open_defined := h.open_defined
  base_readable := by
    intro verb hlisted hname
    have hverb := mem_implementedVerbs_of_nameFor? hlisted hname
    exact absurd (by decide) (h.names verb hverb Operation.parentName hname)
  declared_displayed := hdisplays

theorem parent_listed (l : Lineage) : l.listed.parent = l.parent := by
  rcases l.afterPassing_eq l.operations with hsame | ⟨d, rest, rfl, hnext, -⟩
  · rw [listed, hsame]
  · rw [listed, hnext]
    rfl

/-- Under a marker what a class gives for a verb refuses to be documented exactly where it is a base
that cannot be read, or a declaration that cannot be displayed. -/
theorem refuses_iff (hmarker : marker ≠ []) (verb : Text) :
    (∃ o, l.listed.operation? verb = some o ∧ (l.listed.reach o).Refuses marker) ↔
      l.nameFor? verb = some Operation.parentName ∧ ¬l.parent.IsReadable ∨
        ∃ o, l.listed.operation? verb = some o ∧ (l.listed.reach o).isDisplayable = false := by
  have hgiven : ∀ o : Operation, o.name = Operation.parentName →
      ((l.listed.reach o).Refuses marker ↔ ¬l.parent.IsReadable) := by
    intro o hname
    have hreach : l.listed.reach o = .parent l.parent := by
      rw [reach, hname, parent_listed]
      rfl
    rw [hreach, Reached.Refuses, Parent.IsReadable]
    cases l.parent.text <;> cases l.parent.isMisdeclared <;> simp [hmarker]
  constructor
  · rintro ⟨o, ho, hrefuses⟩
    rcases refuses_of_marker hmarker hrefuses with hname | hoverlong
    · exact .inl ⟨nameFor?_of_listed ho hname, (hgiven o hname).1 hrefuses⟩
    · exact .inr ⟨o, ho, hoverlong⟩
  · rintro (⟨hverb, hunreadable⟩ | ⟨o, ho, hoverlong⟩)
    · rw [← map_name_operation?] at hverb
      obtain ⟨o, ho, hname⟩ := Option.map_eq_some_iff.1 hverb
      have htypes : o.name ≠ SpecialName.types := by
        rw [hname]
        decide
      exact ⟨o, operation?_listed ho htypes, (hgiven o hname).2 hunreadable⟩
    · exact ⟨o, ho, Reached.refuses_of_not_displayable hoverlong⟩

/-- A verb for which an operation is found once the operations have been gone through is one of the
verbs. -/
theorem mem_verbs_of_listed {o : Operation} (hlisted : verb ∈ whitelist)
    (ho : l.listed.operation? verb = some o) : verb ∈ l.verbs whitelist := by
  have hverb : o.verb = verb := by simpa using List.find?_some ho
  have hmem := operations_listed_subset (List.mem_of_find?_eq_some ho)
  rw [verbs, List.mem_filter]
  exact ⟨List.mem_map.2 ⟨o, hmem, hverb⟩, by simpa using hlisted⟩

/-- The class lets OPTIONS answer exactly where nothing is withheld and the documentation of every
verb can be read. -/
theorem letsAnswer_iff (l : Lineage) (whitelist : List Text) (hmarker : marker ≠ []) :
    l.LetsAnswer whitelist ↔ (∀ o ∈ l.operations, l.withholds o = false) ∧
      ∃ docOf : Text → Documentation, ∀ verb ∈ l.verbs whitelist,
        (l.listed.document (.ok marker) verb).1 = .ok (docOf verb) := by
  have hfails : (∀ o ∈ l.operations, l.withholds o = false) → ∀ verb,
      ((∃ f, (l.listed.document (.ok marker) verb).1 = .error f) ↔
        l.nameFor? verb = some Operation.parentName ∧ ¬l.parent.IsReadable ∨
          ∃ o, l.listed.operation? verb = some o ∧ (l.listed.reach o).isDisplayable = false) := by
    intro hopen verb
    rw [exists_document_eq_error_iff (search_listed hopen verb), refuses_iff hmarker]
  constructor
  · rintro ⟨hdefined, hbase, hdisplays⟩
    have hopen := not_withheld_iff.2 hdefined
    refine ⟨hopen, ?_⟩
    rcases l.listed.readable_or (.ok marker) (l.verbs whitelist) with hdocs | ⟨verb, hverb, hf⟩
    · exact hdocs
    · have hlisted := mem_whitelist_of_mem_verbs hverb
      rcases (hfails hopen verb).1 hf with ⟨hname, hunreadable⟩ | ⟨o, ho, hoverlong⟩
      · exact absurd (hbase verb hlisted hname) hunreadable
      · rw [hdisplays verb hlisted o ho] at hoverlong
        cases hoverlong
  · rintro ⟨hopen, docOf, hdocs⟩
    -- The documentation of every verb is read, so that nothing keeps it from being read.
    have hreads : ∀ verb ∈ l.verbs whitelist,
        ¬∃ f, (l.listed.document (.ok marker) verb).1 = .error f := by
      rintro verb hverb ⟨f, hf⟩
      rw [hdocs verb hverb] at hf
      cases hf
    refine ⟨not_withheld_iff.1 hopen, ?_, ?_⟩
    · intro verb hlisted hname
      by_contra hunreadable
      have hverb : verb ∈ l.verbs whitelist := by
        rw [← implementedVerbs_eq]
        exact mem_implementedVerbs_of_nameFor? hlisted hname
      exact hreads verb hverb ((hfails hopen verb).2 (.inl ⟨hname, hunreadable⟩))
    · intro verb hlisted o ho
      rw [← Bool.not_eq_false]
      intro hoverlong
      exact hreads verb (mem_verbs_of_listed hlisted ho)
        ((hfails hopen verb).2 (.inr ⟨o, ho, hoverlong⟩))

end Lineage

namespace Endpoint

variable {e : Endpoint} {config : Configuration}

/-- The Allow header can be added to what is attached. -/
def TakesAllow (e : Endpoint) (config : Configuration) : Prop :=
  ∃ attached, e.allowing (e.lineage.implementedVerbs config.verbs) = .ok attached

/-- OPTIONS gives a descriptor. -/
def Answers (e : Endpoint) : Prop :=
  ∃ d, (e.callMethod Builtin.options.name).result = .ok (.descriptor d)

/-- OPTIONS fails with nothing but its refusal, and only where no header can be added. -/
def FailsOnlyByRefusal (e : Endpoint) : Prop :=
  ∀ f, (e.callMethod Builtin.options.name).result = .error f →
    f = .refuse (.text "OPTIONS".toList) .refusal ∧ e.response.acceptsHeaders = false

/-- A response takes every header whose name is a text. -/
theorem takesAllow_of_response {r : Response} (hresponse : e.response = .response r) :
    e.TakesAllow config :=
  ⟨_, allowing_of_response hresponse _⟩

namespace ServesOptions

theorem result_of_not_accepts (h : e.ServesOptions config)
    (haccepts : e.response.acceptsHeaders = false) :
    (e.callMethod Builtin.options.name).result =
      .error (.refuse (.text "OPTIONS".toList) .refusal) := by
  rw [h.callMethod_options, h.options_of_not_accepts haccepts]
  rfl

/-- Where headers can be added, OPTIONS under a marker gives a descriptor if the response takes this
header and the class lets it, and fails otherwise. -/
theorem result_of_accepts (h : e.ServesOptions config) (hmarker : config.marker ≠ [])
    (haccepts : e.response.acceptsHeaders = true) :
    ((e.TakesAllow config ∧ e.lineage.LetsAnswer config.verbs) ∧ e.Answers) ∨
      (¬(e.TakesAllow config ∧ e.lineage.LetsAnswer config.verbs) ∧
        ∃ f, (e.callMethod Builtin.options.name).result = .error f) := by
  have hlets := e.lineage.letsAnswer_iff config.verbs hmarker
  rw [TakesAllow, Lineage.implementedVerbs_eq]
  rcases e.lineage.withheld_or with hopen | ⟨o, ho, hwithheld⟩
  · cases hallow : e.allowing (e.lineage.verbs config.verbs) with
    | error f =>
      refine .inr ⟨?_, f, ?_⟩
      · rintro ⟨⟨attached, htakes⟩, -⟩
        cases htakes
      · rw [← Lineage.implementedVerbs_eq] at hallow
        exact (options_of_refused_header h haccepts hopen hallow).1
    | ok attached =>
      rcases e.lineage.listed.readable_or (.ok config.marker) (e.lineage.verbs config.verbs) with
        ⟨docOf, hdocs⟩ | ⟨verb, hverb, f, hf⟩
      · obtain ⟨-, hresult⟩ := h.options_of_documents hopen hallow hdocs
        exact .inl ⟨⟨⟨attached, rfl⟩, hlets.2 ⟨hopen, docOf, hdocs⟩⟩, _,
          h.result_callMethod_options hresult⟩
      · obtain ⟨-, g, hg⟩ := h.options_of_unreadable hopen hallow hverb hf
        refine .inr ⟨?_, g, ?_⟩
        · rintro ⟨-, hanswers⟩
          obtain ⟨-, docOf, hdocs⟩ := hlets.1 hanswers
          rw [hdocs verb hverb] at hf
          cases hf
        · rw [h.callMethod_options, Run.bind, hg]
          rfl
  · refine .inr ⟨?_, .missingAttribute, ?_⟩
    · rintro ⟨-, hanswers⟩
      exact Bool.false_ne_true (((hlets.1 hanswers).1 o ho).symm.trans hwithheld)
    · rw [h.callMethod_options, h.options_of_withholds haccepts ho hwithheld]
      rfl

theorem answers_iff (h : e.ServesOptions config) (hmarker : config.marker ≠ []) :
    e.Answers ↔ e.TakesAllow config ∧ e.lineage.LetsAnswer config.verbs := by
  have hfails : ∀ f, (e.callMethod Builtin.options.name).result = .error f → ¬e.Answers := by
    rintro f hf ⟨d, hd⟩
    rw [hf] at hd
    cases hd
  cases haccepts : e.response.acceptsHeaders with
  | false =>
    refine iff_of_false (hfails _ (h.result_of_not_accepts haccepts)) ?_
    rintro ⟨⟨attached, hallow⟩, -⟩
    rw [accepts_of_allowing hallow] at haccepts
    cases haccepts
  | true =>
    rcases h.result_of_accepts hmarker haccepts with ⟨hlets, hanswers⟩ | ⟨hlets, f, hf⟩
    · exact iff_of_true hanswers hlets
    · exact iff_of_false (hfails f hf) hlets

theorem failsOnlyByRefusal_iff (h : e.ServesOptions config) (hmarker : config.marker ≠ []) :
    e.FailsOnlyByRefusal ↔ (e.response.acceptsHeaders = true →
      e.TakesAllow config ∧ e.lineage.LetsAnswer config.verbs) := by
  constructor
  · intro honly haccepts
    rcases h.result_of_accepts hmarker haccepts with ⟨hlets, -⟩ | ⟨-, f, hf⟩
    · exact hlets
    · rw [(honly f hf).2] at haccepts
      cases haccepts
  · intro hlets f hf
    cases haccepts : e.response.acceptsHeaders with
    | false =>
      rw [h.result_of_not_accepts haccepts] at hf
      exact ⟨(Except.error.inj hf).symm, rfl⟩
    | true =>
      obtain ⟨d, hd⟩ := (h.answers_iff hmarker).2 (hlets haccepts)
      rw [hd] at hf
      cases hf

end ServesOptions

end Endpoint

/-- Settings are refused exactly where their marker is complained of. Of a configuration that is
made of them the other complaints say what it can do, its lists hold items of lists, and its marker
is trimmed and not empty. Under it OPTIONS is refused where no header can be added; it fails
otherwise exactly where the response refuses the Allow header or the class does not let it answer,
which takes a routine under a name with a meaning to the class or a declaration that cannot be
displayed. -/
theorem Settings.complaints_predict (s : Settings) :
    ((∃ report, Configuration.ofSettings s = .error (.misconfigured report)) ↔
      s.ComplainsOf .annotationMarker) ∧
    ((∃ config, Configuration.ofSettings s = .ok config) ↔ ¬s.ComplainsOf .annotationMarker) ∧
    ∀ config, Configuration.ofSettings s = .ok config →
      config.Answers s ∧ config.IsWellMade ∧
      ∀ e : Endpoint, e.ServesOptions config →
        (e.response.acceptsHeaders = false → (e.callMethod Builtin.options.name).result =
          .error (.refuse (.text "OPTIONS".toList) .refusal)) ∧
        (e.Answers ↔ e.TakesAllow config ∧ e.lineage.LetsAnswer config.verbs) ∧
        (e.FailsOnlyByRefusal ↔ (e.response.acceptsHeaders = true →
          e.TakesAllow config ∧ e.lineage.LetsAnswer config.verbs)) ∧
        (e.lineage.AvoidsClassNames config.verbs → e.lineage.DisplaysDeclared config.verbs →
          (e.response.acceptsHeaders = true → e.TakesAllow config) → e.FailsOnlyByRefusal) := by
  refine ⟨Configuration.ofSettings_eq_error_iff, Configuration.ofSettings_eq_ok_iff, ?_⟩
  intro config hs
  have hmade := Configuration.isWellMade_of_ofSettings hs
  refine ⟨Configuration.answers_of_ofSettings hs, hmade, ?_⟩
  intro e h
  have honly := h.failsOnlyByRefusal_iff hmade.marker_ne_nil
  refine ⟨h.result_of_not_accepts, h.answers_iff hmade.marker_ne_nil, honly, ?_⟩
  intro havoids hdisplays htakes
  exact honly.2 fun haccepts => ⟨htakes haccepts, havoids.letsAnswer hdisplays⟩

theorem Settings.complaints_predict_standard :
    Configuration.ofSettings .standard = .ok .standard ∧
      ¬Settings.standard.ComplainsOf .httpVerbs ∧
      (Endpoint.fresh .blog .standard).ServesOptions .standard ∧
      (Endpoint.fresh .blog .standard).FailsOnlyByRefusal := by
  have hs : Configuration.ofSettings .standard = .ok .standard := rfl
  have hserves : (Endpoint.fresh .blog .standard).ServesOptions .standard :=
    .fresh .standard rfl rfl rfl (by decide) rfl rfl rfl
  obtain ⟨-, -, hmade⟩ := Settings.complaints_predict .standard
  obtain ⟨hanswers, -, hoptions⟩ := hmade .standard hs
  have hupper : ∀ verb ∈ Configuration.standard.verbs, verb = Text.upper verb := by decide +kernel
  have havoids : Lineage.blog.AvoidsClassNames Configuration.standard.verbs := by decide +kernel
  have hdisplays : Lineage.blog.DisplaysDeclared Configuration.standard.verbs := by decide +kernel
  exact ⟨hs, hanswers.verbs.2 ⟨by decide +kernel, hupper⟩, hserves,
    (hoptions _ hserves).2.2.2 havoids hdisplays fun _ => Endpoint.takesAllow_of_response rfl⟩

theorem Settings.not_failsOnlyByRefusal_withholding :
    Configuration.ofSettings .standard = .ok .standard ∧
      (Endpoint.fresh Endpoint.withholdingLineage .standard).ServesOptions .standard ∧
      ¬(Endpoint.fresh Endpoint.withholdingLineage .standard).FailsOnlyByRefusal := by
  have hserves : (Endpoint.fresh Endpoint.withholdingLineage .standard).ServesOptions .standard :=
    .fresh .standard rfl rfl rfl (by decide) rfl rfl rfl
  refine ⟨rfl, hserves, ?_⟩
  intro honly
  have hlets := ((hserves.failsOnlyByRefusal_iff (by decide)).1 honly rfl).2
  exact absurd (hlets.open_defined (by decide +kernel)) (by decide +kernel)

end VerbDoc
