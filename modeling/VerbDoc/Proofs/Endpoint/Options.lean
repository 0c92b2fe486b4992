import VerbDoc.Proofs.Endpoint.Describing
import VerbDoc.Proofs.Handler.Relisting

/-!
# The answer to OPTIONS

What OPTIONS should answer is said by the names of a class alone: its verbs are the upper cases of
the names that stand for a routine, and a verb is documented by the first routine whose name is the
verb in upper case. The class itself has a say in what is found under a few names, and may withhold
an operation, so that the answer is not always that one. Main statement: without a response that
takes headers OPTIONS is refused, and with one it gives this answer exactly where the class gives
the documentation of its routines.
-/
namespace VerbDoc

/-- The documentation of a routine: what is declared of it, and otherwise what is in its text. -/
def Routine.documentation (m : Marker) (r : Routine) : Documentation :=
  match r.declared with
  | some declaration => declaration.displayed
  | none => m.parse r.text

/-- What is declared of what a class gives can be displayed. -/
def Reached.isDisplayable (reached : Reached) : Bool :=
  match reached.declared with
  | .ok (some declaration) => declaration.isDisplayable
  | .ok none | .error _ => true

namespace Lineage

def documentationFor (l : Lineage) (m : Marker) (verb : Text) : Documentation :=
  ((l.routineFor? verb).map (Routine.documentation m)).getD ∅

def descriptor (l : Lineage) (config : Configuration) (m : Marker) : Descriptor where
  contentTypes := config.contentTypes
  acceptTypes := config.acceptTypes
  methods := .ofKeys (fun verb => .documentation (l.documentationFor m verb))
    ((l.implementedVerbs config.verbs).filter fun verb => !(l.documentationFor m verb).isEmpty)

/-- The class withholds no operation, and gives for each verb what its first routine documents. -/
structure GivesDocumentation (l : Lineage) (whitelist : List Text) (m : Marker) : Prop where
  not_withheld : ∀ o ∈ l.operations, l.withholds o = false
  given : ∀ verb ∈ l.implementedVerbs whitelist,
    (l.listed.document (.ok m.text) verb).1 = .ok (l.documentationFor m verb)

/-- No name that has a meaning to the class comes into play: nothing under the name of what the
class has yet to define is inherited, and the first routine for each verb goes by another name. -/
structure AvoidsClassNames (l : Lineage) (whitelist : List Text) : Prop where
  open_defined : Operation.openName ∈ l.routineNames → (l.own? Operation.openName).isSome = true
  names : ∀ verb ∈ l.implementedVerbs whitelist, ∀ name ∈ l.nameFor? verb,
    name ∉ Operation.classNames

instance (l : Lineage) (whitelist : List Text) : Decidable (l.AvoidsClassNames whitelist) :=
  decidable_of_iff (_ ∧ _) ⟨fun ⟨h₁, h₂⟩ => ⟨h₁, h₂⟩, fun ⟨h₁, h₂⟩ => ⟨h₁, h₂⟩⟩

/-- What is declared of what the class gives for a verb of the whitelist can be displayed. -/
def DisplaysDeclared (l : Lineage) (whitelist : List Text) : Prop :=
  ∀ verb ∈ whitelist, ∀ o ∈ l.listed.operation? verb, (l.listed.reach o).isDisplayable = true

instance (l : Lineage) (whitelist : List Text) : Decidable (l.DisplaysDeclared whitelist) :=
  inferInstanceAs (Decidable (∀ verb ∈ whitelist, ∀ o ∈ l.listed.operation? verb, _))

theorem exists_operation?_of_mem_verbs {l : Lineage} {whitelist : List Text} {verb : Text}
    (hverb : verb ∈ l.verbs whitelist) : ∃ o, l.operation? verb = some o := by
  obtain ⟨o, ho, rfl⟩ := List.mem_map.1 (List.mem_filter.1 hverb).1
  exact exists_operation?_of_mem ho

/-- A class gives what an operation documents under a name without a meaning to the class. -/
theorem fst_document_of_not_mem {l : Lineage} {m : Marker} {verb : Text} {o : Operation}
    (hfound : l.search verb = .ok (some o)) (hname : o.name ∉ Operation.classNames)
    (hdisplays : ∀ declaration ∈ o.routine.declared, declaration.isDisplayable = true) :
    (l.document (.ok m.text) verb).1 = .ok (o.routine.documentation m) := by
  have hmarker : Documentation.readMarker m.text = .ok m := by
    rw [Documentation.readMarker, m.ofText?_text]
  unfold document
  rw [hfound]
  simp only [Except.map, Option.map_some, l.reach_of_not_mem hname]
  unfold Reached.document Routine.documentation
  cases hdeclared : o.routine.declared with
  | some declaration =>
    have hdisplayable := hdisplays declaration hdeclared
    simp [Reached.declared, hdeclared, Declaration.documentation, hdisplayable]
  | none =>
    simp only [Reached.declared, Reached.text, hdeclared, bind, Except.bind, hmarker]
    rfl

namespace AvoidsClassNames

variable {l : Lineage} {whitelist : List Text}

theorem not_withheld (h : l.AvoidsClassNames whitelist) {o : Operation} (ho : o ∈ l.operations) :
    l.withholds o = false :=
  not_withheld_iff.2 h.open_defined o ho

/-- Where a verb is found, it is found under a name without a meaning to the class, also once the
operations have been gone through. -/
theorem operation?_listed_eq (h : l.AvoidsClassNames whitelist) {verb : Text} {o : Operation}
    (hlisted : verb ∈ whitelist) (ho : l.operation? verb = some o) :
    l.listed.operation? verb = some o ∧ o.name ∉ Operation.classNames := by
  have hfor : l.nameFor? verb = some o.name := by
    rw [← map_name_operation?, ho]
    rfl
  have hname := h.names verb (mem_implementedVerbs_of_nameFor? hlisted hfor) o.name hfor
  have htypes : o.name ≠ SpecialName.types := by
    intro heq
    exact hname (by simp [heq, Operation.classNames])
  exact ⟨operation?_listed ho htypes, hname⟩

/-- Such a class displays what is declared where it is declared of the first routine for a verb. -/
theorem displaysDeclared_iff (h : l.AvoidsClassNames whitelist) :
    l.DisplaysDeclared whitelist ↔ ∀ verb ∈ whitelist, ∀ r ∈ l.routineFor? verb,
      ∀ declaration ∈ r.declared, declaration.isDisplayable = true := by
  refine forall₂_congr fun verb hlisted => ?_
  rw [← map_routine_operation?]
  cases ho : l.operation? verb with
  | none =>
    have hnone : l.listed.operation? verb = none := operation?_listed_eq_none ho
    simp [hnone]
  | some o =>
    obtain ⟨hfound, hname⟩ := h.operation?_listed_eq hlisted ho
    have hreach := l.listed.reach_of_not_mem hname
    cases hdeclared : o.routine.declared <;>
      simp [hfound, hreach, Reached.isDisplayable, Reached.declared, hdeclared]

/-- Such a class gives the documentation of its routines. -/
theorem givesDocumentation (h : l.AvoidsClassNames whitelist)
    (hdisplays : l.DisplaysDeclared whitelist) (m : Marker) :
    l.GivesDocumentation whitelist m where
  not_withheld _ ho := h.not_withheld ho
  given := by
    intro verb hverb
    obtain ⟨o, ho⟩ := exists_operation?_of_mem_verbs (l.implementedVerbs_eq whitelist ▸ hverb)
    have hlisted : verb ∈ whitelist := by
      rw [implementedVerbs_eq] at hverb
      exact mem_whitelist_of_mem_verbs hverb
    obtain ⟨hkept, hname⟩ := h.operation?_listed_eq hlisted ho
    have hfound : l.listed.search verb = .ok (some o) := by
      rw [search_listed fun _ => h.not_withheld, hkept]
    have hdeclared := h.displaysDeclared_iff.1 hdisplays verb hlisted o.routine
      (by rw [← map_routine_operation?, ho]; rfl)
    rw [fst_document_of_not_mem hfound hname hdeclared, documentationFor, ← map_routine_operation?,
      ho]
    rfl

end AvoidsClassNames
end Lineage

/-! ## Documentation in a description -/

namespace Descriptor

theorem isEmpty_iff {doc : Documentation} : doc.isEmpty = true ↔ doc = ∅ := by
  rw [OrderedMap.isEmpty, List.isEmpty_iff]
  refine ⟨fun h => OrderedMap.ext h, ?_⟩
  rintro rfl
  rfl

/-- The documentation of verbs can be read off their descriptions. -/
theorem eq_of_ofKeys_eq {f g : Text → Documentation} {verbs : List Text}
    (heq : (OrderedMap.ofKeys (fun v => Documented.documentation (f v))
        (verbs.filter fun v => !(f v).isEmpty)) =
      .ofKeys (fun v => .documentation (g v)) (verbs.filter fun v => !(g v).isEmpty))
    {verb : Text} (hverb : verb ∈ verbs) : f verb = g verb := by
  have hget : ∀ h : Text → Documentation,
      (OrderedMap.ofKeys (fun v => Documented.documentation (h v))
        (verbs.filter fun v => !(h v).isEmpty)).get? verb =
          if (h verb).isEmpty then none else some (.documentation (h verb)) := by
    intro h
    by_cases hempty : (h verb).isEmpty = true
    · rw [if_pos hempty]
      exact OrderedMap.get?_ofKeys_of_not_mem _ (by simp [hempty])
    · rw [if_neg hempty]
      exact OrderedMap.get?_ofKeys _ (by simp [hverb, hempty])
  have hsame := hget f
  rw [heq, hget g] at hsame
  by_cases hf : (f verb).isEmpty = true <;> by_cases hg : (g verb).isEmpty = true
  · rw [isEmpty_iff.1 hf, isEmpty_iff.1 hg]
  · simp [hf, hg] at hsame
  · simp [hf, hg] at hsame
  · simpa [hf, hg, eq_comm] using hsame

end Descriptor

namespace Endpoint

variable {e : Endpoint} {config : Configuration} {m : Marker}

/-- OPTIONS answers what the class says of itself, and what is attached is what came of adding the
Allow header to the response. -/
def AnswersOptions (e : Endpoint) (config : Configuration) (m : Marker) : Prop :=
  ∃ attached,
    e.response.addHeader (.text "Allow".toList)
      (.text (Text.listed (e.lineage.implementedVerbs config.verbs))) = .ok attached ∧
    (e.callMethod Builtin.options.name).response = attached ∧
    (e.callMethod Builtin.options.name).result = .ok (.descriptor (e.lineage.descriptor config m))

theorem answersOptions_of_gives (h : e.ServesOptions config) (hm : config.marker = m.text)
    {attached : Attached}
    (hallow : e.allowing (e.lineage.implementedVerbs config.verbs) = .ok attached)
    (hgives : e.lineage.GivesDocumentation config.verbs m) : e.AnswersOptions config m := by
  obtain ⟨hopen, hgiven⟩ := hgives
  rw [Lineage.implementedVerbs_eq] at hallow
  rw [Lineage.implementedVerbs_eq, ← hm] at hgiven
  obtain ⟨hresponse, hresult⟩ := h.options_of_documents hopen hallow hgiven
  rw [AnswersOptions, Lineage.descriptor, Lineage.implementedVerbs_eq]
  refine ⟨attached, hallow, ?_, h.result_callMethod_options hresult⟩
  rw [h.callMethod_options]
  exact hresponse

theorem gives_of_answersOptions (h : e.ServesOptions config) (hm : config.marker = m.text)
    (hanswers : e.AnswersOptions config m) : e.lineage.GivesDocumentation config.verbs m := by
  obtain ⟨attached, hallow, -, hresult⟩ := hanswers
  change e.allowing _ = _ at hallow
  rw [Lineage.implementedVerbs_eq] at hallow
  -- An answer was given, so that nothing in its way can have failed.
  have hfails : ∀ f, e.options.result ≠ .error f := by
    intro f hf
    rw [h.callMethod_options, Run.bind, hf] at hresult
    cases hresult
  have hopen : ∀ o ∈ e.lineage.operations, e.lineage.withholds o = false := by
    intro o ho
    rw [← Bool.not_eq_true]
    intro hwithheld
    refine hfails .missingAttribute ?_
    rw [h.options_of_withholds (accepts_of_allowing hallow) ho hwithheld]
  rcases e.lineage.listed.readable_or (.ok config.marker) (e.lineage.verbs config.verbs) with
    ⟨docOf, hdocs⟩ | ⟨verb, hverb, f, hf⟩
  case inr =>
    obtain ⟨-, g, hg⟩ := h.options_of_unreadable hopen hallow hverb hf
    exact absurd hg (hfails g)
  obtain ⟨-, hoptions⟩ := h.options_of_documents hopen hallow hdocs
  rw [h.result_callMethod_options hoptions, Lineage.descriptor, Lineage.implementedVerbs_eq]
    at hresult
  refine ⟨hopen, ?_⟩
  intro verb hverb
  rw [Lineage.implementedVerbs_eq] at hverb
  have hmethods := congrArg Descriptor.methods (Answer.descriptor.inj (Except.ok.inj hresult))
  rw [← hm, hdocs verb hverb, Descriptor.eq_of_ofKeys_eq hmethods hverb]

/-- Where the response refuses the header, OPTIONS fails in the same way and leaves it attached. -/
theorem options_of_refused_header (h : e.ServesOptions config)
    (haccepts : e.response.acceptsHeaders = true)
    (hopen : ∀ o ∈ e.lineage.operations, e.lineage.withholds o = false) {f : Fault}
    (hrefused : e.allowing (e.lineage.implementedVerbs config.verbs) = .error f) :
    (e.callMethod Builtin.options.name).result = .error f ∧
      (e.callMethod Builtin.options.name).response = e.response := by
  rw [Lineage.implementedVerbs_eq] at hrefused
  obtain ⟨hendpoint, hresult⟩ := h.options_of_not_allowing haccepts hopen hrefused
  rw [h.callMethod_options]
  refine ⟨?_, ?_⟩
  · rw [Run.bind, hresult]
    rfl
  · rw [Run.response, Run.bind, hendpoint]
    rfl

/-- OPTIONS is refused without a response that takes headers, and where the response itself refuses
the header it fails in the same way. With the header, it answers what the class says of itself where
no name with a meaning to the class comes into play and what is declared can be displayed. Exactly
where the header can be added and the class gives the documentation of its routines, it answers
so. -/
theorem answersOptions_iff (h : e.ServesOptions config) (hm : config.marker = m.text) :
    (e.response.acceptsHeaders = false →
      (e.callMethod Builtin.options.name).result =
        .error (.refuse (.text "OPTIONS".toList) .refusal) ∧
      (e.callMethod Builtin.options.name).response = e.response) ∧
    (∀ f, e.response.acceptsHeaders = true →
      (∀ o ∈ e.lineage.operations, e.lineage.withholds o = false) →
      e.allowing (e.lineage.implementedVerbs config.verbs) = .error f →
      (e.callMethod Builtin.options.name).result = .error f ∧
        (e.callMethod Builtin.options.name).response = e.response) ∧
    (∀ attached, e.allowing (e.lineage.implementedVerbs config.verbs) = .ok attached →
      e.lineage.AvoidsClassNames config.verbs → e.lineage.DisplaysDeclared config.verbs →
      e.AnswersOptions config m) ∧
    (e.AnswersOptions config m ↔
      (∃ attached, e.allowing (e.lineage.implementedVerbs config.verbs) = .ok attached) ∧
        e.lineage.GivesDocumentation config.verbs m) := by
  refine ⟨?_, ?_, ?_, ?_⟩
  · intro hrefuses
    rw [h.callMethod_options, h.options_of_not_accepts hrefuses]
    exact ⟨rfl, rfl⟩
  · intro f haccepts hopen hrefused
    exact options_of_refused_header h haccepts hopen hrefused
  · intro attached hallow havoids hdisplays
    exact answersOptions_of_gives h hm hallow (havoids.givesDocumentation hdisplays m)
  · constructor
    · intro hanswers
      obtain ⟨attached, hallow, -, -⟩ := id hanswers
      exact ⟨⟨attached, hallow⟩, gives_of_answersOptions h hm hanswers⟩
    · rintro ⟨⟨attached, hallow⟩, hgives⟩
      exact answersOptions_of_gives h hm hallow hgives

theorem answersOptions_blog :
    (fresh .blog .standard).ServesOptions .standard ∧
      Lineage.blog.AvoidsClassNames Configuration.standard.verbs ∧
      Lineage.blog.DisplaysDeclared Configuration.standard.verbs ∧
      Lineage.blog.implementedVerbs Configuration.standard.verbs =
        ["GET".toList, "PUT".toList, "HEAD".toList, "OPTIONS".toList] ∧
      (fresh .blog .standard).AnswersOptions .standard .standard := by
  have hserves : (fresh .blog .standard).ServesOptions .standard :=
    .fresh .standard rfl rfl rfl (by decide) rfl rfl rfl
  have havoids : Lineage.blog.AvoidsClassNames Configuration.standard.verbs := by decide +kernel
  have hdisplays : Lineage.blog.DisplaysDeclared Configuration.standard.verbs := by decide +kernel
  exact ⟨hserves, havoids, hdisplays, by decide +kernel,
    (answersOptions_iff hserves rfl).2.2.1 _ rfl havoids hdisplays⟩

/-- A class that inherits a routine under the name of what a class has yet to define. -/
def withholdingLineage : Lineage :=
  (Lineage.derive [.base] "Open".toList
    [(Operation.openName, .routine ⟨.object, none, none, []⟩),
      ("get".toList, .routine ⟨.object, some "@apiUri /g".toList, none, []⟩)]).derive "Blog".toList
    [("post".toList, .routine ⟨.object, some "@apiUri /p".toList, none, []⟩)]

theorem not_answersOptions_withholding :
    (fresh withholdingLineage .standard).ServesOptions .standard ∧
      (fresh withholdingLineage .standard).response.acceptsHeaders = true ∧
      ¬(fresh withholdingLineage .standard).AnswersOptions .standard .standard := by
  have hserves : (fresh withholdingLineage .standard).ServesOptions .standard :=
    .fresh .standard rfl rfl rfl (by decide) rfl rfl rfl
  have hwithheld : ∃ o ∈ withholdingLineage.operations,
      withholdingLineage.withholds o = true := by decide +kernel
  refine ⟨hserves, rfl, ?_⟩
  intro hanswers
  obtain ⟨o, ho, hheld⟩ := hwithheld
  have hopen := (gives_of_answersOptions hserves rfl hanswers).not_withheld o ho
  exact absurd (hheld.symm.trans hopen) (by decide)

end Endpoint
end VerbDoc
