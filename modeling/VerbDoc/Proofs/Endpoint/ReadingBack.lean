import VerbDoc.Proofs.Endpoint.Advertising
import VerbDoc.Proofs.Handler.Relisting
import VerbDoc.Proofs.Message.Selecting
import VerbDoc.Proofs.Settings.Complaining

/-!
# The Allow header read back

The Allow header joins the verbs with commas, and a header line joins the values of a header with
commas again. The verbs of a whitelist that was itself read from such a list survive this. Main
statement: the items of the Allow header are those it had before and then the verbs of the class,
each as often as it is listed, and they are the verbs that are listed afterwards exactly where
listing them again gives the same.
-/
namespace VerbDoc

/-! ## A line with one more text -/

namespace Headers

variable {name other : Text}

/-- A text that is added to a header adds its items to those of the line. -/
theorem commaItems_line_add (headers : Headers) (hsame : Text.lower other = Text.lower name)
    (t : Text) :
    ((headers.add other (.text t)).line name).map Text.commaItems =
      ((headers.line name).map Text.commaItems).map (· ++ Text.commaItems t) := by
  rw [line, line, values_add_self headers hsame, List.mapM_append]
  cases (headers.values name).mapM Value.asText? with
  | none => rfl
  | some texts =>
    change Except.ok (Text.commaItems (Text.listed (texts ++ [t]))) =
      Except.ok (Text.commaItems (Text.listed texts) ++ Text.commaItems t)
    rw [Text.commaItems_listed, Text.commaItems_listed, List.flatMap_append, List.flatMap_singleton]

end Headers

/-! ## Listing verbs as a call -/

namespace Endpoint

variable {e : Endpoint} {config : Configuration} {r : Response} {whitelist : List Text}

theorem result_list (e : Endpoint) (whitelist : List Text) :
    (e.list whitelist).result = (e.lineage.listVerbs whitelist).1.map .verbs := rfl

/-- Verbs are listed exactly where no operation is withheld. -/
theorem result_list_eq_ok_iff {verbs : List Text} :
    (e.list whitelist).result = .ok (.verbs verbs) ↔
      (∀ o ∈ e.lineage.operations, e.lineage.withholds o = false) ∧
        verbs = e.lineage.verbs whitelist := by
  rw [result_list, ← Lineage.listVerbs_eq_ok_iff]
  cases (e.lineage.listVerbs whitelist).1 <;> simp [Except.map]

/-! ## OPTIONS and the items of a header -/

/-- The items of the line of a header, if the endpoint has a response with such a line. -/
def headerItems (e : Endpoint) (name : Text) : Except Fault (List Text) :=
  match e.response with
  | .response r => ((Message.response r).headerLine (.text name)).map Text.commaItems
  | _ => .error .missingAttribute

/-- After OPTIONS the Allow header lists these verbs, behind what it listed before. -/
def AllowsBesides (e : Endpoint) (verbs : List Text) : Prop :=
  ∀ name, Text.lower name = Text.lower "Allow".toList →
    e.afterOptions.headerItems name = (e.headerItems name).map (· ++ verbs)

/-- The verbs that are listed after OPTIONS are those that the Allow header lists besides. -/
def ReadsBack (e : Endpoint) (config : Configuration) : Prop :=
  ∃ verbs, (e.afterOptions.list config.verbs).result = .ok (.verbs verbs) ∧ e.AllowsBesides verbs

namespace ServesOptions

theorem afterOptions_eq (h : e.ServesOptions config) : e.afterOptions = e.options.endpoint := by
  rw [afterOptions, h.callMethod_options]
  rfl

/-- OPTIONS goes through the operations of the class, adds the header and leaves the rest. -/
theorem endpoint_options (h : e.ServesOptions config) (hresponse : e.response = .response r)
    (hopen : ∀ o ∈ e.lineage.operations, e.lineage.withholds o = false) :
    e.options.endpoint = (e.afterPassing e.lineage.operations).attach (.response
      (r.addHeader "Allow".toList (.text (Text.listed (e.lineage.verbs config.verbs))))) := by
  have hallow := allowing_of_response hresponse (e.lineage.verbs config.verbs)
  rw [(h.options_of_allowing hopen hallow).1, h.endpoint_describing hopen rfl]

theorem allowsBesides_verbs (h : e.ServesOptions config) (hresponse : e.response = .response r)
    (hitems : ∀ verb ∈ config.verbs, Text.IsItem verb)
    (hopen : ∀ o ∈ e.lineage.operations, e.lineage.withholds o = false) :
    e.AllowsBesides (e.lineage.verbs config.verbs) := by
  intro name hname
  have hread : Text.commaItems (Text.listed (e.lineage.verbs config.verbs)) =
      e.lineage.verbs config.verbs :=
    Text.commaItems_listed_of_isItem fun verb hverb =>
      hitems verb (Lineage.mem_whitelist_of_mem_verbs hverb)
  have hadded := r.headers.commaItems_line_add hname.symm
    (Text.listed (e.lineage.verbs config.verbs))
  rw [hread] at hadded
  rw [h.afterOptions_eq, h.endpoint_options hresponse hopen, headerItems, headerItems, hresponse]
  exact hadded

/-- Once OPTIONS has gone through the operations, the class lists what it lists then. -/
theorem result_list_afterOptions_iff (h : e.ServesOptions config)
    (hresponse : e.response = .response r) {verbs : List Text} :
    (e.afterOptions.list whitelist).result = .ok (.verbs verbs) ↔
      (∀ o ∈ e.lineage.operations, e.lineage.withholds o = false) ∧
        verbs = e.lineage.listed.verbs whitelist := by
  have hlineage : e.afterOptions.lineage = e.lineage.listed := by
    rw [h.afterOptions_eq]
    rcases e.lineage.withheld_or with hopen | ⟨o, ho, hwithheld⟩
    · rw [h.endpoint_options hresponse hopen]
      rfl
    · rw [h.options_of_withholds (accepts_of_response hresponse) ho hwithheld]
      rfl
  rw [result_list_eq_ok_iff, hlineage, Lineage.not_withheld_listed_iff]

/-- OPTIONS fails where listing the verbs does, and leaves the response alone. -/
theorem fails_of_list_fails (h : e.ServesOptions config) (hresponse : e.response = .response r)
    {f : Fault} (hf : (e.list config.verbs).result = .error f) :
    (e.callMethod Builtin.options.name).result = .error f ∧
      e.afterOptions.response = e.response := by
  rw [result_list] at hf
  rcases e.lineage.withheld_or with hopen | ⟨o, ho, hwithheld⟩
  · rw [Lineage.listVerbs_of_not_withheld hopen] at hf
    cases hf
  · rw [Lineage.listVerbs_of_withholds ho hwithheld] at hf
    cases hf
    rw [h.afterOptions_eq, h.callMethod_options,
      h.options_of_withholds (accepts_of_response hresponse) ho hwithheld]
    exact ⟨rfl, rfl⟩

end ServesOptions

/-- The header has a list of items before OPTIONS, so that the verbs can be told from them. -/
theorem eq_of_allowsBesides {verbs others items : List Text}
    (hbefore : e.headerItems "Allow".toList = .ok items) (hverbs : e.AllowsBesides verbs)
    (hothers : e.AllowsBesides others) : verbs = others := by
  have hsame := (hverbs _ rfl).symm.trans (hothers _ rfl)
  rw [hbefore] at hsame
  exact List.append_cancel_left (Except.ok.inj hsame)

theorem ServesOptions.readsBack_iff_listsSteadily (h : e.ServesOptions config)
    (hresponse : e.response = .response r) (hitems : ∀ verb ∈ config.verbs, Text.IsItem verb)
    {items : List Text} (hbefore : e.headerItems "Allow".toList = .ok items) :
    e.ReadsBack config ↔ e.lineage.ListsSteadily config.verbs := by
  constructor
  · rintro ⟨verbs, hlist, hallows⟩
    obtain ⟨hopen, rfl⟩ := (h.result_list_afterOptions_iff hresponse).1 hlist
    exact ⟨hopen, eq_of_allowsBesides hbefore hallows
      (h.allowsBesides_verbs hresponse hitems hopen)⟩
  · rintro ⟨hopen, hverbs⟩
    exact ⟨_, (h.result_list_afterOptions_iff hresponse).2 ⟨hopen, hverbs.symm⟩,
      h.allowsBesides_verbs hresponse hitems hopen⟩

/-- Under a configuration that is made of settings, the verbs that the class lists are read back
from the Allow header in any spelling, behind what was there; where the class does not let them be
listed, OPTIONS fails in the same way and leaves the response alone. They are the verbs that are
listed afterwards exactly where the class lists its verbs steadily, and a declared class does so
exactly where it owns the routines that this depends on. -/
theorem readsBack_iff {s : Settings} (hs : Configuration.ofSettings s = .ok config)
    (h : e.ServesOptions config) (hresponse : e.response = .response r) :
    (∀ verbs, (e.list config.verbs).result = .ok (.verbs verbs) → e.AllowsBesides verbs) ∧
    (∀ f, (e.list config.verbs).result = .error f →
      (e.callMethod Builtin.options.name).result = .error f ∧
        e.afterOptions.response = e.response) ∧
    (∀ items, e.headerItems "Allow".toList = .ok items →
      (e.ReadsBack config ↔ e.lineage.ListsSteadily config.verbs)) ∧
    (∀ d rest, e.lineage = .declared d :: rest →
      (e.lineage.ListsSteadily config.verbs ↔ e.lineage.OwnsSpecialRoutines config.verbs)) := by
  have hitems := (Configuration.isWellMade_of_ofSettings hs).verbs
  refine ⟨?_, fun f hf => h.fails_of_list_fails hresponse hf,
    fun items hbefore => h.readsBack_iff_listsSteadily hresponse hitems hbefore, ?_⟩
  · intro verbs hlist
    obtain ⟨hopen, rfl⟩ := result_list_eq_ok_iff.1 hlist
    exact h.allowsBesides_verbs hresponse hitems hopen
  · intro d rest hlineage
    rw [hlineage]
    exact Lineage.listsSteadily_iff

theorem readsBack_blog :
    Configuration.ofSettings .standard = .ok .standard ∧
      (fresh .blog .standard).ServesOptions .standard ∧
      (fresh .blog .standard).ReadsBack .standard := by
  have hs : Configuration.ofSettings .standard = .ok .standard := rfl
  have hserves : (fresh .blog .standard).ServesOptions .standard :=
    .fresh .standard rfl rfl rfl (by decide) rfl rfl rfl
  obtain ⟨-, -, hreads, hsteady⟩ := readsBack_iff hs hserves rfl
  have howns : Lineage.blog.OwnsSpecialRoutines Configuration.standard.verbs := by decide +kernel
  exact ⟨hs, hserves, (hreads [] rfl).2 ((hsteady _ _ rfl).2 howns)⟩

/-- A class that inherits a routine under the name of its record of types. -/
def recordingLineage : Lineage :=
  (Lineage.derive [.base] "Typed".toList
    [(SpecialName.types, .routine ⟨.object, none, none, []⟩),
      ("get".toList, .routine ⟨.object, none, none, []⟩)]).derive "Blog".toList []

/-- The standard settings with the name of the record among the verbs. -/
def recordingSettings : Settings :=
  { Settings.standard with httpVerbs := "GET,__ANNOTATIONS__,HEAD".toList }

def recordingConfiguration : Configuration :=
  { Configuration.standard with
    verbs := ["GET".toList, "HEAD".toList, "__ANNOTATIONS__".toList] }

theorem not_readsBack_recording :
    Configuration.ofSettings recordingSettings = .ok recordingConfiguration ∧
      (fresh recordingLineage recordingConfiguration).ServesOptions recordingConfiguration ∧
      ¬(fresh recordingLineage recordingConfiguration).ReadsBack recordingConfiguration := by
  have hs : Configuration.ofSettings recordingSettings = .ok recordingConfiguration := rfl
  have hserves : (fresh recordingLineage recordingConfiguration).ServesOptions
      recordingConfiguration := .fresh _ rfl rfl rfl (by decide) rfl rfl rfl
  have hitems := (Configuration.isWellMade_of_ofSettings hs).verbs
  have hopen : ∀ o ∈ recordingLineage.operations, recordingLineage.withholds o = false := by
    decide +kernel
  refine ⟨hs, hserves, ?_⟩
  rintro ⟨verbs, hlist, hallows⟩
  obtain ⟨-, rfl⟩ := (hserves.result_list_afterOptions_iff rfl).1 hlist
  have hsame := eq_of_allowsBesides rfl hallows (hserves.allowsBesides_verbs rfl hitems hopen)
  exact absurd hsame (by decide +kernel)

end Endpoint
end VerbDoc
