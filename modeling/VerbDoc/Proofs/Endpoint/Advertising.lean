import VerbDoc.Proofs.Endpoint.Describing
import VerbDoc.Proofs.Endpoint.Refusing
import VerbDoc.Proofs.Handler.Discovery

/-!
# HEAD among the verbs that OPTIONS announces

The class of all endpoints has a HEAD, so that every class inherits the routine, and OPTIONS
announces it with the others. Whether HEAD finds a GET to run is another matter. Main statement:
HEAD is announced whatever the class has under the name of GET, and it is refused afterwards exactly
where that cannot be called.
-/
namespace VerbDoc

namespace Lineage

/-- A class that inherits an operation of every endpoint implements it. -/
theorem mem_implementedVerbs_of_builtin {l : Lineage} {b : Builtin}
    (hb : l.attribute? b.name = some (.builtin b)) (whitelist : List Text) :
    Text.upper b.name ∈ l.implementedVerbs whitelist ↔ Text.upper b.name ∈ whitelist := by
  apply upper_mem_implementedVerbs_iff
  rw [routine?, hb]
  rfl

end Lineage

namespace Endpoint

/-! ## What OPTIONS leaves alone -/

/-- The object has the same attributes of its own, and its class has the same things under every
name but that of the record of types. -/
structure KeepsAttributes (e after : Endpoint) : Prop where
  own : after.attributes = e.attributes
  inherited : ∀ name, name ≠ SpecialName.types →
    after.lineage.attribute? name = e.lineage.attribute? name

namespace KeepsAttributes

theorem refl (e : Endpoint) : e.KeepsAttributes e := ⟨rfl, fun _ _ => rfl⟩

theorem trans {e middle after : Endpoint} (h : e.KeepsAttributes middle)
    (hnext : middle.KeepsAttributes after) : e.KeepsAttributes after :=
  ⟨hnext.own.trans h.own,
    fun name hname => (hnext.inherited name hname).trans (h.inherited name hname)⟩

theorem attach (e : Endpoint) (attached : Attached) : e.KeepsAttributes (e.attach attached) :=
  ⟨rfl, fun _ _ => rfl⟩

theorem afterPassing (e : Endpoint) (ops : List Operation) :
    e.KeepsAttributes (e.afterPassing ops) :=
  ⟨rfl, fun _ hname => e.lineage.attribute?_afterPassing ops hname⟩

/-- A body that is given the object changes what is attached to it and nothing else. -/
theorem runBody (e : Endpoint) (body : List Step) :
    e.KeepsAttributes (e.runBody .object body).1 := by
  obtain ⟨left, -, -, hleft, -, -⟩ := Step.runAll_alike (.same e.response) body
  obtain ⟨hlineage, hattributes, -⟩ := e.settle_object left
  change e.KeepsAttributes (e.settle (Step.runAll (.object e.response) body).1)
  rw [hleft]
  exact ⟨hattributes, fun name _ => by rw [hlineage]⟩

theorem readMissing (e : Endpoint) : e.KeepsAttributes e.readMissing.1 := by
  unfold Endpoint.readMissing
  split
  · exact refl e
  · exact refl e
  · exact runBody e _
  · split
    · exact runBody e _
    · exact refl e
    · exact refl e
    · exact refl e
  · exact refl e

theorem readPlainly (e : Endpoint) (name : Text) : e.KeepsAttributes (e.readPlainly name).1 := by
  unfold Endpoint.readPlainly
  split
  · next body _ =>
    have hbody := runBody e body
    split
    · next heq => rwa [heq] at hbody
    · next after heq =>
      rw [heq] at hbody
      exact hbody.trans (readMissing after)
    · next heq => rwa [heq] at hbody
  · split
    · exact refl e
    · exact readMissing e
  · unfold lookUp
    split
    · exact refl e
    · exact refl e
    · split
      · exact refl e
      · exact readMissing e

theorem read (e : Endpoint) (name : Text) : e.KeepsAttributes (e.read name).1 := by
  unfold Endpoint.read
  split
  · exact refl e
  · exact readPlainly e name

theorem documentVerb (e : Endpoint) (verb : Text) :
    e.KeepsAttributes (e.documentVerb verb).endpoint := by
  have hread := read e Builtin.documentVerb.name
  unfold Endpoint.documentVerb
  split
  · next heq => rwa [heq] at hread
  · next after heq =>
    rw [heq] at hread
    exact hread.trans (afterPassing after _)
  · next after _ _ body heq =>
    rw [heq] at hread
    exact hread.trans (runBody after body)
  · next heq => rwa [heq] at hread
  · next heq => rwa [heq] at hread

theorem describe (e : Endpoint) (verbs : List Text) (d : Descriptor) :
    e.KeepsAttributes (e.describe verbs d).endpoint := by
  induction verbs generalizing e d with
  | nil => exact refl e
  | cons verb rest ih =>
    have hverb := documentVerb e verb
    rw [Endpoint.describe]
    dsimp only
    split
    · exact hverb
    · exact hverb.trans (ih _ _)

theorem optionsFor (e : Endpoint) (config : Configuration) (verbs : List Text) :
    e.KeepsAttributes (e.optionsFor config verbs).endpoint := by
  unfold Endpoint.optionsFor
  split
  · exact refl e
  · next attached _ =>
    have hdescribed := (attach e attached).trans
      (describe _ verbs ⟨config.contentTypes, config.acceptTypes, ∅⟩)
    dsimp only
    split <;> exact hdescribed

theorem options (e : Endpoint) : e.KeepsAttributes e.options.endpoint := by
  unfold Endpoint.options
  split
  · exact refl e
  · split
    · split
      · unfold optionsUnder
        dsimp only
        split
        · exact afterPassing e _
        · exact (afterPassing e _).trans (optionsFor _ _ _)
      · exact refl e
    · exact refl e

end KeepsAttributes

/-! ## HEAD and OPTIONS together -/

def headVerb : Text := "HEAD".toList

/-- Neither the class nor the object has anything else in the place of HEAD or of OPTIONS, and the
class has no way of its own of reading attributes. -/
structure ServesHead (e : Endpoint) : Prop where
  reads_plainly : e.lineage.attribute? SpecialName.reading = none
  options_inherited : e.lineage.attribute? Builtin.options.name = some (.builtin .options)
  options_unhidden : e.attributes.get? Builtin.options.name = none
  head_inherited : e.lineage.attribute? Builtin.head.name = some (.builtin .head)
  head_unhidden : e.attributes.get? Builtin.head.name = none

def afterOptions (e : Endpoint) : Endpoint := (e.callMethod Builtin.options.name).endpoint

/-- OPTIONS lists these verbs, attaches the response with an Allow header for them, and goes on from
there to describe them. -/
def Advertises (e : Endpoint) (config : Configuration) (verbs : List Text) : Prop :=
  (e.callMethod Builtin.options.name).log.head? = some (.verbsListed e.lineage.className verbs) ∧
    ∃ attached, e.allowing verbs = .ok attached ∧
      e.afterOptions = (e.describing config attached).endpoint

/-- HEAD is among the verbs of the Allow header. -/
def AdvertisesHead (e : Endpoint) (config : Configuration) : Prop :=
  ∃ verbs, e.Advertises config verbs ∧ headVerb ∈ verbs

variable {e : Endpoint} {config : Configuration} {r : Response}

namespace ServesHead

theorem callMethod_options (h : e.ServesHead) :
    e.callMethod Builtin.options.name = e.options.bind descriptorAnswer :=
  callMethod_options_of_inherited h.reads_plainly h.options_inherited h.options_unhidden

theorem afterOptions_eq (h : e.ServesHead) : e.afterOptions = e.options.endpoint := by
  rw [afterOptions, h.callMethod_options]
  rfl

theorem refusesHead_iff (h : e.ServesHead) : e.RefusesHead ↔ e.LacksGet :=
  Endpoint.refusesHead_iff h.reads_plainly h.head_inherited h.head_unhidden

theorem of_keepsAttributes (h : e.ServesHead) {after : Endpoint}
    (hkeeps : e.KeepsAttributes after) : after.ServesHead where
  reads_plainly := (hkeeps.inherited _ (by decide)).trans h.reads_plainly
  options_inherited := (hkeeps.inherited _ (by decide)).trans h.options_inherited
  options_unhidden := hkeeps.own ▸ h.options_unhidden
  head_inherited := (hkeeps.inherited _ (by decide)).trans h.head_inherited
  head_unhidden := hkeeps.own ▸ h.head_unhidden

theorem afterOptions (h : e.ServesHead) : e.afterOptions.ServesHead := by
  rw [h.afterOptions_eq]
  exact h.of_keepsAttributes (KeepsAttributes.options e)

/-- The verbs of the Allow header are the implemented ones, unless an operation is withheld. -/
theorem advertises_iff (h : e.ServesHead) (hresponse : e.response = .response r)
    (hconfigured : e.configured = .ok config) {verbs : List Text} :
    e.Advertises config verbs ↔ (∀ o ∈ e.lineage.operations, e.lineage.withholds o = false) ∧
      verbs = e.lineage.implementedVerbs config.verbs := by
  rw [Lineage.implementedVerbs_eq, Advertises, h.callMethod_options, h.afterOptions_eq]
  have hallow := allowing_of_response hresponse (e.lineage.verbs config.verbs)
  rcases e.lineage.withheld_or with hopen | ⟨o, ho, hwithheld⟩
  · obtain ⟨hendpoint, -, hlog⟩ := options_of_configured hconfigured hopen hallow
    rw [and_iff_right hopen]
    change e.options.log.head? = _ ∧ _ ↔ _
    rw [hlog]
    constructor
    · rintro ⟨hlisted, -⟩
      cases hlisted
      rfl
    · rintro rfl
      exact ⟨rfl, _, hallow, hendpoint⟩
  · refine iff_of_false ?_ fun hall =>
      Bool.false_ne_true ((hall.1 o ho).symm.trans hwithheld)
    rintro ⟨hlisted, -⟩
    have haccepts := accepts_of_response hresponse
    rw [options_of_configured_of_withholds hconfigured haccepts ho hwithheld] at hlisted
    cases hlisted

/-- HEAD is announced wherever the whitelist has it, whatever becomes of GET. -/
theorem advertisesHead_iff (h : e.ServesHead) (hresponse : e.response = .response r)
    (hconfigured : e.configured = .ok config) :
    e.AdvertisesHead config ↔ (∀ o ∈ e.lineage.operations, e.lineage.withholds o = false) ∧
      headVerb ∈ config.verbs := by
  have hverb : Text.upper Builtin.head.name = headVerb := by decide +kernel
  have hmem := Lineage.mem_implementedVerbs_of_builtin h.head_inherited config.verbs
  rw [hverb] at hmem
  simp only [AdvertisesHead, h.advertises_iff hresponse hconfigured]
  constructor
  · rintro ⟨verbs, ⟨hopen, rfl⟩, hhead⟩
    exact ⟨hopen, hmem.1 hhead⟩
  · rintro ⟨hopen, hhead⟩
    exact ⟨_, ⟨hopen, rfl⟩, hmem.2 hhead⟩

end ServesHead

namespace ServesOptions

/-- Where nothing is withheld and verbs are documented as for every endpoint, the response has the
Allow header in the end. -/
theorem response_options (h : e.ServesOptions config) (hresponse : e.response = .response r)
    (hopen : ∀ o ∈ e.lineage.operations, e.lineage.withholds o = false) :
    e.options.response = .response
      (r.addHeader "Allow".toList (.text (Text.listed (e.lineage.verbs config.verbs)))) := by
  have hallow := allowing_of_response hresponse (e.lineage.verbs config.verbs)
  rw [Run.response, (h.options_of_allowing hopen hallow).1, h.endpoint_describing hopen rfl]
  rfl

/-- OPTIONS then changes nothing about GET. -/
theorem lacksGet_options_iff (h : e.ServesOptions config) (hresponse : e.response = .response r) :
    e.options.endpoint.LacksGet ↔ e.LacksGet := by
  have hkeeps := KeepsAttributes.options e
  have hget := hkeeps.inherited getName (by decide)
  have hfallback := hkeeps.inherited SpecialName.fallback (by decide)
  refine lacksGet_congr ?_ hget hfallback hkeeps.own
  rcases e.lineage.withheld_or with hopen | ⟨o, ho, hwithheld⟩
  · have hallowed := h.response_options hresponse hopen
    rw [Run.response] at hallowed
    rw [hresponse, hallowed]
    exact .responses _ _
  · rw [h.options_of_withholds (accepts_of_response hresponse) ho hwithheld]
    exact .same _

end ServesOptions

/-- Nothing else stands in the place of what documents a verb, and the class has no way of its own
of reading attributes. -/
structure DocumentsVerbs (e : Endpoint) : Prop where
  reads_plainly : e.lineage.attribute? SpecialName.reading = none
  inherited : e.lineage.attribute? Builtin.documentVerb.name = some (.builtin .documentVerb)
  unhidden : e.attributes.get? Builtin.documentVerb.name = none

/-- OPTIONS announces HEAD wherever the whitelist has it and no operation is withheld, whatever
there is under the name of GET. HEAD is refused exactly where that cannot be called, before OPTIONS
and after it, so that a HEAD which is announced is refused there and nowhere else. Where verbs are
documented as for every endpoint, OPTIONS changes nothing about GET, and the response has the header
in the end. -/
theorem advertisedHead_refused_iff (h : e.ServesHead) (hresponse : e.response = .response r)
    (hconfigured : e.configured = .ok config) :
    (e.AdvertisesHead config ↔ (∀ o ∈ e.lineage.operations, e.lineage.withholds o = false) ∧
      headVerb ∈ config.verbs) ∧
    (∀ other ∈ [e, e.afterOptions], (other.RefusesHead ↔ other.LacksGet)) ∧
    ((e.AdvertisesHead config → ¬e.afterOptions.RefusesHead) ↔
      ¬((∀ o ∈ e.lineage.operations, e.lineage.withholds o = false) ∧ headVerb ∈ config.verbs ∧
        e.afterOptions.LacksGet)) ∧
    (e.DocumentsVerbs → (e.afterOptions.LacksGet ↔ e.LacksGet) ∧
      (e.AdvertisesHead config → e.afterOptions.response = .response (r.addHeader "Allow".toList
        (.text (Text.listed (e.lineage.implementedVerbs config.verbs)))))) := by
  have hadvertises := h.advertisesHead_iff hresponse hconfigured
  have hrefuses := h.afterOptions.refusesHead_iff
  refine ⟨hadvertises, ?_, by simp only [hadvertises, hrefuses, and_imp, not_and], ?_⟩
  · intro other hother
    simp only [List.mem_cons, List.not_mem_nil, or_false] at hother
    rcases hother with rfl | rfl
    · exact h.refusesHead_iff
    · exact hrefuses
  · intro hdocuments
    have hserves : e.ServesOptions config := ⟨h.reads_plainly, h.options_inherited,
      h.options_unhidden, hdocuments.inherited, hdocuments.unhidden,
      fault?_of_accepts (accepts_of_response hresponse), hconfigured⟩
    rw [h.afterOptions_eq, Lineage.implementedVerbs_eq]
    exact ⟨hserves.lacksGet_options_iff hresponse,
      fun hhead => hserves.response_options hresponse (hadvertises.1 hhead).1⟩

theorem advertisedHead_refused_iff_blog :
    (fresh .blog .standard).ServesHead ∧ (fresh .blog .standard).DocumentsVerbs ∧
      (fresh .blog .standard).configured = .ok .standard ∧
      (fresh .blog .standard).AdvertisesHead .standard ∧
      ¬(fresh .blog .standard).afterOptions.RefusesHead := by
  have hserves : (fresh .blog .standard).ServesHead := ⟨rfl, rfl, rfl, rfl, rfl⟩
  have hdocuments : (fresh .blog .standard).DocumentsVerbs := ⟨rfl, rfl, rfl⟩
  have hconfigured : (fresh .blog .standard).configured = .ok .standard := rfl
  obtain ⟨hadvertises, hrefuses, -, hsame⟩ := advertisedHead_refused_iff hserves rfl hconfigured
  have hopen : ∀ o ∈ Lineage.blog.operations, Lineage.blog.withholds o = false := by decide +kernel
  refine ⟨hserves, hdocuments, hconfigured, hadvertises.2 ⟨hopen, by decide +kernel⟩, ?_⟩
  rw [hrefuses _ (by simp), (hsame hdocuments).1]
  exact not_lacksGet_of_routine rfl rfl

/-- A class with a routine that is no GET. -/
def writeOnly : Lineage :=
  Lineage.derive [.base] "WriteOnly".toList [("post".toList, .routine ⟨.object, none, none, []⟩)]

theorem advertises_refused_head_writeOnly :
    (fresh writeOnly .standard).ServesHead ∧
      (fresh writeOnly .standard).AdvertisesHead .standard ∧
      (fresh writeOnly .standard).afterOptions.RefusesHead := by
  have hserves : (fresh writeOnly .standard).ServesHead := ⟨rfl, rfl, rfl, rfl, rfl⟩
  have hoptions : (fresh writeOnly .standard).ServesOptions .standard :=
    .fresh .standard rfl rfl rfl (by decide) rfl rfl rfl
  have hopen : ∀ o ∈ writeOnly.operations, writeOnly.withholds o = false := by decide +kernel
  have hadvertises := hserves.advertisesHead_iff rfl hoptions.configured
  refine ⟨hserves, hadvertises.2 ⟨hopen, by decide +kernel⟩, ?_⟩
  rw [hserves.afterOptions.refusesHead_iff, hserves.afterOptions_eq,
    hoptions.lacksGet_options_iff rfl]
  exact lacksGet_of_undefined rfl rfl rfl

end Endpoint
end VerbDoc
