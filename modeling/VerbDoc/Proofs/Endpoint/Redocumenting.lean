import VerbDoc.Proofs.Endpoint.Advertising
import VerbDoc.Proofs.Endpoint.Answering
import VerbDoc.Proofs.Handler.Redeclaring

/-!
# Documentation in a text and in a declaration

What a method documents in its text can be declared of it instead, and OPTIONS tells the difference
only by the order of the tags. Main statement: what is read from a text is declared with all its
tags, and refused where a tag for a single text was repeated; a class whose methods are declared
instead gives the same answer to OPTIONS but for that order.
-/
namespace VerbDoc

/-! ## Descriptors -/

/-- Both say the same of the same verbs, whatever the order of the tags. -/
structure Descriptor.SaysSame (a b : Descriptor) : Prop where
  contentTypes : a.contentTypes = b.contentTypes
  acceptTypes : a.acceptTypes = b.acceptTypes
  verbs : a.methods.keys = b.methods.keys
  methods : ∀ verb ∈ a.methods.keys, ∃ doc doc' : Documentation,
    a.methods.get? verb = some (.documentation doc) ∧
      b.methods.get? verb = some (.documentation doc') ∧ doc.SaysSame doc'

theorem Documentation.isEmpty_iff_get? {doc : Documentation} :
    doc.isEmpty = true ↔ ∀ key, doc.get? key = none := by
  have hkeys : doc.isEmpty = true ↔ doc.keys = [] := by
    rw [OrderedMap.isEmpty, OrderedMap.keys, List.isEmpty_iff, List.map_eq_nil_iff]
  rw [hkeys, List.eq_nil_iff_forall_not_mem]
  exact forall_congr' fun key => (doc.get?_eq_none_iff key).symm

theorem Documentation.SaysSame.isEmpty_eq {a b : Documentation} (h : a.SaysSame b) :
    a.isEmpty = b.isEmpty := by
  rw [Bool.eq_iff_iff, isEmpty_iff_get?, isEmpty_iff_get?]
  exact forall_congr' fun key => by rw [h key]

theorem Lineage.Redeclares.saysSame_descriptor {m : Marker} {l l' : Lineage}
    (h : l.Redeclares m l') (config : Configuration) :
    (l.descriptor config m).SaysSame (l'.descriptor config m) := by
  have hverbs : ((l.implementedVerbs config.verbs).filter fun verb =>
      !(l.documentationFor m verb).isEmpty) =
      (l'.implementedVerbs config.verbs).filter fun verb =>
        !(l'.documentationFor m verb).isEmpty := by
    rw [h.implementedVerbs_eq]
    apply List.filter_congr
    intro verb _
    rw [(h.saysSame_documentationFor verb).isEmpty_eq]
  refine ⟨rfl, rfl, ?_, ?_⟩
  · rw [descriptor, descriptor, OrderedMap.keys_ofKeys, OrderedMap.keys_ofKeys, hverbs]
  · intro verb hverb
    rw [descriptor, OrderedMap.keys_ofKeys, OrderedMap.mem_distinct] at hverb
    have hverb' := hverb
    rw [hverbs] at hverb'
    exact ⟨_, _, OrderedMap.get?_ofKeys _ hverb, OrderedMap.get?_ofKeys _ hverb',
      h.saysSame_documentationFor verb⟩

/-! ## Endpoints -/

namespace Endpoint

variable {e : Endpoint} {config : Configuration} {m : Marker} {l : Lineage}

/-- A verb whose method is declared is documented with the declared tags, whatever the marker. -/
theorem result_document_of_declared (hdocuments : e.DocumentsVerbs) {verb : Text}
    (havoids : e.lineage.AvoidsClassNames [verb]) {r : Routine} {d : Declaration}
    {doc : Documentation} (hr : e.lineage.routineFor? verb = some r) (hd : r.declared = some d)
    (hdoc : d.documentation = .ok doc) :
    (e.step (.document verb)).result = .ok (.documentation doc.tags.entries) := by
  rw [← Lineage.map_routine_operation?, Option.map_eq_some_iff] at hr
  obtain ⟨o, ho, rfl⟩ := hr
  have hfor : e.lineage.nameFor? verb = some o.name := by
    rw [← Lineage.map_name_operation?, ho]
    rfl
  have hname : o.name ∉ Operation.classNames :=
    havoids.names verb (Lineage.mem_implementedVerbs_of_nameFor? (by simp) hfor) o.name hfor
  have hdocument : ∀ marker, e.lineage.document marker verb = (.ok doc, []) := by
    intro marker
    rw [Lineage.document, Lineage.search_of_not_withholds (fun _ => havoids.not_withheld), ho]
    simp only [Except.map, Option.map_some, e.lineage.reach_of_not_mem hname]
    rw [Reached.document, Reached.declared, hd]
    simp only [hdoc]
  unfold step documentVerb
  rw [read_builtin hdocuments.reads_plainly hdocuments.inherited hdocuments.unhidden]
  simp only [hdocument]
  rfl

/-- A class whose methods are documented in another way has the same in the place of everything that
an answer to OPTIONS takes. -/
theorem ServesOptions.of_redeclares (h : e.ServesOptions config)
    (hl : e.lineage.Redeclares m l) : { e with lineage := l }.ServesOptions config where
  reads_plainly := hl.attribute?_eq_none h.reads_plainly
  options_inherited := hl.attribute?_eq h.options_inherited (by simp)
  options_unhidden := h.options_unhidden
  documentVerb_inherited := hl.attribute?_eq h.documentVerb_inherited (by simp)
  documentVerb_unhidden := h.documentVerb_unhidden
  response_place := h.response_place
  configured := by
    obtain ⟨hhidden, hhas, hconfig⟩ := configured_eq_ok_iff.1 h.configured
    refine configured_eq_ok_iff.2 ⟨hhidden, ?_, hconfig⟩
    have hplaces : hasPlace l configurationName = hasPlace e.lineage configurationName := by
      unfold hasPlace
      rcases find_or_of_rel (hl.attribute? configurationName) with
        ⟨ha, ha'⟩ | ⟨a, a', ha, ha', hrel⟩
      · rw [ha, ha']
      · rw [ha, ha']
        cases hrel <;> rfl
    rw [← hhas, has, has, hplaces]

/-- OPTIONS answers for both classes or for none. -/
theorem answers_iff_of_redeclares (h : e.ServesOptions config) (hm : config.marker = m.text)
    (havoids : e.lineage.AvoidsClassNames config.verbs) (hl : e.lineage.Redeclares m l) :
    e.Answers ↔ { e with lineage := l }.Answers := by
  have hmarker : config.marker ≠ [] := hm ▸ m.ne_nil
  have hlets : ∀ {l : Lineage}, l.AvoidsClassNames config.verbs →
      (l.LetsAnswer config.verbs ↔ l.DisplaysDeclared config.verbs) :=
    fun havoids => ⟨fun hlets => hlets.declared_displayed, havoids.letsAnswer⟩
  have htakes : e.TakesAllow config ↔ { e with lineage := l }.TakesAllow config := by
    rw [TakesAllow, TakesAllow, hl.implementedVerbs_eq]
    rfl
  rw [h.answers_iff hmarker, (h.of_redeclares hl).answers_iff hmarker, hlets havoids,
    hlets (hl.avoidsClassNames havoids), hl.displaysDeclared_iff havoids, htakes]

/-- OPTIONS gives the same answer and leaves the same response, whichever methods are declared
instead. -/
theorem options_of_redeclares (h : e.ServesOptions config) (hm : config.marker = m.text)
    (havoids : e.lineage.AvoidsClassNames config.verbs) (hl : e.lineage.Redeclares m l)
    {body : Descriptor}
    (hbody : (e.callMethod Builtin.options.name).result = .ok (.descriptor body)) :
    ∃ body', ({ e with lineage := l }.callMethod Builtin.options.name).result =
        .ok (.descriptor body') ∧
      body.SaysSame body' ∧
      ({ e with lineage := l }.callMethod Builtin.options.name).response =
        (e.callMethod Builtin.options.name).response := by
  have hmarker : config.marker ≠ [] := hm ▸ m.ne_nil
  obtain ⟨⟨attached, hallow⟩, hlets⟩ := (h.answers_iff hmarker).1 ⟨body, hbody⟩
  have hdisplays := hlets.declared_displayed
  have hallow' : { e with lineage := l }.allowing (l.implementedVerbs config.verbs) =
      .ok attached := by
    rw [← hl.implementedVerbs_eq]
    exact hallow
  obtain ⟨_, hadded, hresponse, hresult⟩ :=
    answersOptions_of_gives h hm hallow (havoids.givesDocumentation hdisplays m)
  obtain ⟨_, hadded', hresponse', hresult'⟩ :=
    answersOptions_of_gives (h.of_redeclares hl) hm hallow'
      ((hl.avoidsClassNames havoids).givesDocumentation
        ((hl.displaysDeclared_iff havoids).1 hdisplays) m)
  obtain rfl := Answer.descriptor.inj (Except.ok.inj (hbody.symm.trans hresult))
  refine ⟨_, hresult', hl.saysSame_descriptor config, ?_⟩
  rw [hresponse, hresponse', ← Except.ok.inj (hallow.symm.trans hadded),
    ← Except.ok.inj (hallow'.symm.trans hadded')]

/-- What is read from a text can be declared of a method, unless a tag for a single text was
repeated: such tags are named in the refusal. The verb of the method is then documented with the
same tags, those with a declared type in front, unless its name has a meaning to the class. So
OPTIONS gives the same answer, whichever methods are declared instead, and fails where it failed. -/
theorem declared_agrees (m : Marker) (raw : Option Text) :
    (Declaration.textNames.filter (m.parse raw).repeats = [] →
      ∃ d doc, Declaration.ofTags (m.parse raw).tags = .ok d ∧ d.documentation = .ok doc ∧
        (m.parse raw).SaysSame doc ∧
        doc.keys = Declaration.declaredNames.filter (m.parse raw).contains ++
          ((m.parse raw).keys.filter fun key => !Declaration.declaredNames.contains key) ∧
        ∀ (e : Endpoint) (verb : Text) (r : Routine), e.DocumentsVerbs →
          e.lineage.AvoidsClassNames [verb] → e.lineage.routineFor? verb = some r →
          r.declared = some d →
          (e.step (.document verb)).result = .ok (.documentation doc.tags.entries)) ∧
    (∀ name more, Declaration.textNames.filter (m.parse raw).repeats = name :: more →
      Declaration.ofTags (m.parse raw).tags =
        .error (.invalidFields (Text.sortedSet (name :: more)))) ∧
    (∀ (e : Endpoint) (config : Configuration) (l : Lineage), e.ServesOptions config →
      config.marker = m.text → e.lineage.AvoidsClassNames config.verbs →
      e.lineage.Redeclares m l →
      (e.Answers ↔ { e with lineage := l }.Answers) ∧
      ∀ body, (e.callMethod Builtin.options.name).result = .ok (.descriptor body) →
        ∃ body', ({ e with lineage := l }.callMethod Builtin.options.name).result =
            .ok (.descriptor body') ∧
          body.SaysSame body' ∧
          ({ e with lineage := l }.callMethod Builtin.options.name).response =
            (e.callMethod Builtin.options.name).response) := by
  have hdoc := m.parse_isWellFormed raw
  refine ⟨?_, ?_, ?_⟩
  · intro hsingle
    have hdeclared : Declaration.ofTags (m.parse raw).tags =
        .ok (.ofDocumentation (m.parse raw)) := by
      rw [Declaration.ofTags_tags, hsingle]
    have hdisplayed := Declaration.documentation_ofDocumentation hsingle
    refine ⟨_, _, hdeclared, hdisplayed, Declaration.saysSame_displayed hdoc hsingle,
      Declaration.keys_displayed hdoc hsingle, ?_⟩
    intro e verb r hdocuments havoids hr hd
    exact result_document_of_declared hdocuments havoids hr hd hdisplayed
  · intro name more hrepeated
    rw [Declaration.ofTags_tags, hrepeated]
  · intro e config l h hm havoids hl
    refine ⟨answers_iff_of_redeclares h hm havoids hl, ?_⟩
    intro body hbody
    exact options_of_redeclares h hm havoids hl hbody

/-- The text of a verb with a tag of its own in front of one with a declared type. -/
def postText : Text := "@apiNote new\n@apiUri /posts".toList

/-- What the text documents, declared. -/
def postDeclaration : Declaration :=
  ⟨some "/posts".toList, none, none, none, .ofList [("note".toList, .text "new".toList)]⟩

/-- A class with one verb, which is documented in this way. -/
def postLineage (text : Option Text) (declared : Option Declaration) : Lineage :=
  Lineage.derive [.base] "Post".toList [("get".toList, .routine ⟨.object, text, declared, []⟩)]

theorem redeclares_postLineage :
    (postLineage (some postText) none).Redeclares .standard
      (postLineage none (some postDeclaration)) := by
  refine .cons (.cons ⟨rfl, .routine (.declared none rfl rfl)⟩ ?_) (.cons ?_ .nil)
  · exact List.forall₂_same.2 fun _ _ => ⟨rfl, .same _⟩
  · exact List.forall₂_same.2 fun _ _ => ⟨rfl, .same _⟩

theorem declared_agrees_posts :
    (∃ d doc, Declaration.ofTags (Marker.standard.parse (some postText)).tags = .ok d ∧
      d.documentation = .ok doc ∧ doc.keys = ["uri".toList, "note".toList]) ∧
    ((fresh (postLineage none (some postDeclaration)) .standard).step
      (.document "GET".toList)).result = .ok (.documentation
        [("uri".toList, .text "/posts".toList), ("note".toList, .text "new".toList)]) ∧
    Declaration.ofTags (Marker.standard.parse (some "@apiUri /a\n@apiUri /b".toList)).tags =
      .error (.invalidFields ["uri".toList]) ∧
    ∃ body body',
      ((fresh (postLineage (some postText) none) .standard).callMethod
        Builtin.options.name).result = .ok (.descriptor body) ∧
      ((fresh (postLineage none (some postDeclaration)) .standard).callMethod
        Builtin.options.name).result = .ok (.descriptor body') ∧
      body.SaysSame body' := by
  obtain ⟨hdeclared, -, hoptions⟩ := declared_agrees .standard (some postText)
  obtain ⟨d, doc, hd, hdoc, -, hkeys, hdocument⟩ := hdeclared (by decide)
  obtain rfl : postDeclaration = d := Except.ok.inj hd
  obtain rfl : postDeclaration.displayed = doc := Except.ok.inj hdoc
  have hrefused := (declared_agrees .standard (some "@apiUri /a\n@apiUri /b".toList)).2.1
    "uri".toList [] (by decide)
  have hserves : (fresh (postLineage (some postText) none) .standard).ServesOptions .standard :=
    .fresh .standard rfl rfl rfl (by decide) rfl rfl rfl
  have havoids :
      (postLineage (some postText) none).AvoidsClassNames Configuration.standard.verbs := by
    decide +kernel
  have hdisplays : (postLineage (some postText) none).DisplaysDeclared
      Configuration.standard.verbs := by
    decide +kernel
  obtain ⟨body, hbody⟩ := (hserves.answers_iff (by decide)).2
    ⟨takesAllow_of_response rfl, havoids.letsAnswer hdisplays⟩
  obtain ⟨body', hbody', hsame, -⟩ :=
    (hoptions _ _ _ hserves rfl havoids redeclares_postLineage).2 body hbody
  refine ⟨⟨postDeclaration, _, hd, hdoc, hkeys⟩, ?_, hrefused, body, body', hbody, hbody', hsame⟩
  exact hdocument (fresh (postLineage none (some postDeclaration)) .standard) "GET".toList _
    ⟨rfl, rfl, rfl⟩ (by decide +kernel) rfl rfl

/-- A method under a name that the class answers with something else. -/
def titleLineage : Lineage :=
  Lineage.derive [.base] "Named".toList
    [("__name__".toList, .routine ⟨.object, none, some postDeclaration, []⟩)]

theorem not_documents_declared_title :
    Declaration.ofTags (Marker.standard.parse (some postText)).tags = .ok postDeclaration ∧
      (fresh titleLineage .standard).ServesOptions .standard ∧
      titleLineage.routineFor? "__NAME__".toList =
        some ⟨.object, none, some postDeclaration, []⟩ ∧
      ((fresh titleLineage .standard).step (.document "__NAME__".toList)).result ≠
        .ok (.documentation postDeclaration.displayed.tags.entries) := by
  refine ⟨rfl, .fresh .standard rfl rfl rfl (by decide) rfl rfl rfl, rfl, ?_⟩
  have hnothing : ((fresh titleLineage .standard).step (.document "__NAME__".toList)).result =
      .ok (.documentation []) := rfl
  have hsomething : postDeclaration.displayed.tags.entries =
      [("uri".toList, .text "/posts".toList), ("note".toList, .text "new".toList)] := rfl
  rw [hnothing, hsomething]
  intro h
  cases h

end Endpoint
end VerbDoc
