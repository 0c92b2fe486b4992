import VerbDoc.Configuration
import VerbDoc.Proofs.Text.CommaList
import VerbDoc.Settings.Complaint

/-!
# What complaints say of a configuration

Settings are looked through for what is wrong with them in one place, and a configuration is made of
them in another. Main statements: a configuration is refused exactly where the marker is complained
of, and of one that is made each other complaint is missing exactly where the configuration can do
what the complaint is about.
-/
namespace VerbDoc

namespace Settings

/-- Something is wrong with a setting. -/
def ComplainsOf (s : Settings) (setting : Setting) : Prop := ∃ c ∈ s.complaints, c.setting = setting

/-- What each complaint means. -/
def Faulty (s : Settings) : Setting → Prop
  | .httpVerbs =>
    Text.commaItems s.httpVerbs = [] ∨ ∃ verb ∈ Text.commaItems s.httpVerbs, verb ≠ Text.upper verb
  | .contentTypes => Text.commaItems s.contentTypes = []
  | .acceptTypes => Text.commaItems s.acceptTypes = []
  | .annotationMarker => Text.trim s.annotationMarker = []
  | .debug | .logLevel | .logFile | .fileLogging => False

theorem exists_mem_verbComplaints_iff (verbs : Text) (setting : Setting) :
    (∃ c ∈ verbComplaints verbs, c.setting = setting) ↔ setting = .httpVerbs ∧
      (Text.commaItems verbs = [] ∨ ∃ verb ∈ Text.commaItems verbs, verb ≠ Text.upper verb) := by
  have hnone : (notUpperCase verbs).isEmpty = true ↔
      ¬∃ verb ∈ Text.commaItems verbs, verb ≠ Text.upper verb := by
    simp [notUpperCase]
  unfold verbComplaints
  by_cases hempty : Text.commaItems verbs = []
  · simp [hempty, Complaint.setting, eq_comm]
  · rw [if_neg (by simpa using hempty)]
    by_cases hupper : (notUpperCase verbs).isEmpty = true
    · simp only [hupper, if_true, hempty, false_or, hnone.1 hupper]
      simp
    · rw [if_neg hupper]
      have hsome := not_not.1 (mt hnone.2 hupper)
      simp only [List.mem_singleton, exists_eq_left, hsome, or_true, and_true]
      exact eq_comm

/-- A complaint that is made under a condition. -/
theorem exists_mem_ite_iff {p : Prop} [Decidable p] {complaint : Complaint} {setting : Setting} :
    (∃ c ∈ (if p then [complaint] else []), c.setting = setting) ↔
      complaint.setting = setting ∧ p := by
  split
  · next hp => simp [hp]
  · next hp => simp [hp]

/-- Exactly the faulty settings are complained of. -/
theorem complainsOf_iff (s : Settings) (setting : Setting) :
    s.ComplainsOf setting ↔ s.Faulty setting := by
  have hsplit : s.ComplainsOf setting ↔
      (∃ c ∈ verbComplaints s.httpVerbs, c.setting = setting) ∨
      (Complaint.noContentTypes.setting = setting ∧ (Text.commaItems s.contentTypes).isEmpty) ∨
      (Complaint.noAcceptTypes.setting = setting ∧ (Text.commaItems s.acceptTypes).isEmpty) ∨
      (Complaint.emptyMarker.setting = setting ∧ (Text.trim s.annotationMarker).isEmpty) := by
    simp only [ComplainsOf, complaints, List.mem_append, or_and_right, exists_or,
      exists_mem_ite_iff, or_assoc]
  rw [hsplit, exists_mem_verbComplaints_iff]
  cases setting <;> simp [Complaint.setting, Faulty]

end Settings

namespace Text

theorem sortedSet_eq_nil_iff {ts : List Text} : sortedSet ts = [] ↔ ts = [] := by
  simp only [List.eq_nil_iff_forall_not_mem, mem_sortedSet]

end Text

namespace Configuration

/-- A configuration whose lists hold items of lists and whose marker is trimmed and not empty. -/
structure IsWellMade (config : Configuration) : Prop where
  verbs : ∀ verb ∈ config.verbs, Text.IsItem verb
  contentTypes : ∀ type ∈ config.contentTypes, Text.IsItem type
  acceptTypes : ∀ type ∈ config.acceptTypes, Text.IsItem type
  marker_ne_nil : config.marker ≠ []
  marker_trimmed : Text.Trimmed config.marker

/-- What is not complained of in the settings is there in the configuration. -/
structure Answers (config : Configuration) (s : Settings) : Prop where
  verbs : ¬s.ComplainsOf .httpVerbs ↔
    config.verbs ≠ [] ∧ ∀ verb ∈ config.verbs, verb = Text.upper verb
  contentTypes : ¬s.ComplainsOf .contentTypes ↔ config.contentTypes ≠ []
  acceptTypes : ¬s.ComplainsOf .acceptTypes ↔ config.acceptTypes ≠ []

variable {s : Settings} {config : Configuration}

theorem eq_of_ofSettings (hs : ofSettings s = .ok config) :
    Text.trim s.annotationMarker ≠ [] ∧
      config = ⟨Text.sortedSet (Text.commaItems s.httpVerbs), Text.commaItems s.contentTypes,
        Text.commaItems s.acceptTypes, Text.trim s.annotationMarker⟩ := by
  unfold ofSettings at hs
  split at hs
  · cases hs
  · next hmarker => exact ⟨by simpa using hmarker, (Except.ok.inj hs).symm⟩

/-- Settings are refused exactly where their marker is complained of. -/
theorem ofSettings_eq_error_iff :
    (∃ report, ofSettings s = .error (.misconfigured report)) ↔
      s.ComplainsOf .annotationMarker := by
  rw [Settings.complainsOf_iff, Settings.Faulty]
  unfold ofSettings
  split
  · next hmarker => exact iff_of_true ⟨_, rfl⟩ (by simpa using hmarker)
  · next hmarker => exact iff_of_false (by simp) (by simpa using hmarker)

theorem ofSettings_eq_ok_iff : (∃ config, ofSettings s = .ok config) ↔
    ¬s.ComplainsOf .annotationMarker := by
  rw [exists_ofSettings_iff, Settings.complainsOf_iff, Settings.Faulty]

theorem isWellMade_of_ofSettings (hs : ofSettings s = .ok config) : config.IsWellMade := by
  obtain ⟨hmarker, rfl⟩ := eq_of_ofSettings hs
  exact {
    verbs := fun _ hverb => Text.isItem_of_mem_commaItems (Text.mem_sortedSet.1 hverb)
    contentTypes := fun _ htype => Text.isItem_of_mem_commaItems htype
    acceptTypes := fun _ htype => Text.isItem_of_mem_commaItems htype
    marker_ne_nil := hmarker
    marker_trimmed := Text.trimmed_trim s.annotationMarker }

theorem answers_of_ofSettings (hs : ofSettings s = .ok config) : config.Answers s := by
  obtain ⟨-, rfl⟩ := eq_of_ofSettings hs
  refine ⟨?_, ?_, ?_⟩
  · rw [Settings.complainsOf_iff, Settings.Faulty, not_or, Ne, Text.sortedSet_eq_nil_iff]
    simp only [Text.mem_sortedSet, not_exists, not_and, ne_eq, not_not]
  · rw [Settings.complainsOf_iff, Settings.Faulty]
  · rw [Settings.complainsOf_iff, Settings.Faulty]

end Configuration
end VerbDoc
