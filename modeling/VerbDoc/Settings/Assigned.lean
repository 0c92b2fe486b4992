import VerbDoc.Configuration
import VerbDoc.Record
import VerbDoc.Settings.Complaint
import VerbDoc.Settings.LogSetup

/-!
# Settings after assignments

Settings can be assigned while they are in use, and what is assigned is not checked: a setting
may come to hold a value of any type, or be taken away. Such settings may still have a meaning,
which is what they are complained about and what configurations are made from. Main statements:
settings that have not been assigned mean themselves, and set up logging as before.
-/
namespace VerbDoc

/-- Settings with a value of any type each, and what lies behind them. -/
structure AssignedSettings where
  /-- The settings that are there, in the order in which they are shown. -/
  held : OrderedMap Setting Value
  /-- Everything else that the settings have as a record. -/
  record : Record
  /-- The settings that have been assigned. It need not be found out again how to. -/
  known : List Setting

/-- What there is to see of settings: the values, and what they mean. -/
structure SettingsView where
  values : List (Text × Value)
  meaning : Settings
  logSetup : LogSetup

namespace AssignedSettings

def ofSettings (s : Settings) : AssignedSettings where
  held := .ofList (Setting.all.map fun setting => (setting, s.value setting))
  record := .ofFields ∅
  known := []

def computedNames : List Text := ["model_extra", "model_fields_set"].map String.toList

/-- The settings after all attributes have been replaced by those of a record. -/
def rehold (s : AssignedSettings) (record : Record) : AssignedSettings where
  held := .ofList <| record.attributes.entries.filterMap fun e =>
    (Setting.ofName? e.1).map fun setting => (setting, e.2)
  record := record
  known := s.known

/-- It can be found out how to assign to a name, or is known. -/
def checkAssigner (s : AssignedSettings) (name : Text) : Except Fault Unit :=
  if (Setting.ofName? name).any s.known.contains &&
      !s.record.attributes.contains Record.assignersName then .ok ()
  else s.record.checkAssigner name

/-- The settings after an assignment by name. A name outside the fields changes no setting but
through all attributes together. Nothing can be assigned once the note of the assigned fields has
been replaced. -/
def assign (s : AssignedSettings) (name : Text) (v : Value) : Except Fault AssignedSettings := do
  s.checkAssigner name
  if isPrivateName name then
    let record ← s.record.assign name v
    return if name = "__dict__".toList then s.rehold record else { s with record }
  if computedNames.contains name then throw .missingAttribute
  match Setting.ofName? name, s.record.given with
  | none, _ => throw (.unknownSetting name)
  | some _, some _ => throw .missingAttribute
  | some setting, none =>
    return { s with held := s.held.insert setting v, known := setting :: s.known }

def get (s : AssignedSettings) (setting : Setting) : Except Fault Value :=
  match s.held.get? setting with
  | some v => .ok v
  | none => s.record.get setting.name

/-- The text that a setting holds. No other value can be trimmed or changed in case. -/
def textOf (s : AssignedSettings) (setting : Setting) : Except Fault Text := do
  match ← s.get setting with
  | .text t => return t
  | _ => throw .missingAttribute

/-- The text that a setting holds which stands for a list. Any value that counts as nothing has no
items, as the empty text has none. -/
def listOf (s : AssignedSettings) (setting : Setting) : Except Fault Text := do
  if (← s.get setting).isTruthy then s.textOf setting else return []

/-- The log file, which has to be there only where logging to a file is on. -/
def fileFor (s : AssignedSettings) (fileLogging : Bool) : Except Fault Value :=
  if fileLogging then s.get .logFile else .ok ((s.held.get? .logFile).getD .null)

/-- What the settings mean, if they mean anything. Every value counts as yes or as no for a
switch. -/
def meaning (s : AssignedSettings) : Except Fault Settings := do
  let httpVerbs ← s.listOf .httpVerbs
  let contentTypes ← s.listOf .contentTypes
  let acceptTypes ← s.listOf .acceptTypes
  let annotationMarker ← s.textOf .annotationMarker
  let logLevel ← s.textOf .logLevel
  let debug := (← s.get .debug).isTruthy
  let fileLogging := (← s.get .fileLogging).isTruthy
  let logFile := (← s.fileFor fileLogging).asText?
  return ⟨httpVerbs, contentTypes, acceptTypes, annotationMarker, debug, logLevel, logFile,
    fileLogging⟩

def values (s : AssignedSettings) : List (Text × Value) :=
  s.held.entries.map fun e => (e.1.name, e.2)

/-- The set-up of logging that settings with this meaning ask for. A file of any type that counts
as something is handed on. -/
def logSetup (s : AssignedSettings) (meaning : Settings) : LogSetup where
  level := meaning.logSetup.level
  file :=
    match meaning.fileLogging, s.get .logFile with
    | true, .ok file => if file.isTruthy then some file else none
    | _, _ => none

/-- What lists the values of settings, which has no substitute. -/
def listing : Text := "__pydantic_serializer__".toList

def viewOperations : List Text :=
  ["model_dump", "validate_settings", "configure_logging"].map String.toList

def view (s : AssignedSettings) : Except Fault SettingsView := do
  viewOperations.forM s.record.checkOperation
  if s.record.attributes.contains listing then throw .missingAttribute
  let meaning ← s.meaning
  return ⟨s.values, meaning, s.logSetup meaning⟩

/-- The views of settings before and after each of several assignments in turn, or the first
refusal. -/
def views (s : AssignedSettings) : List (Text × Value) → Except Fault (List SettingsView)
  | [] => s.view.map fun seen => [seen]
  | (name, v) :: rest => do
    let seen ← s.view
    let next ← s.assign name v
    return seen :: (← next.views rest)

theorem get_ofSettings (s : Settings) (setting : Setting) :
    (ofSettings s).get setting = .ok (s.value setting) := by
  cases setting <;> rfl

theorem textOf_of_get {s : AssignedSettings} {setting : Setting} {t : Text}
    (h : s.get setting = .ok (.text t)) : s.textOf setting = .ok t := by
  simp [textOf, h, bind, Except.bind, pure, Except.pure]

theorem listOf_of_get {s : AssignedSettings} {setting : Setting} {t : Text}
    (h : s.get setting = .ok (.text t)) : s.listOf setting = .ok t := by
  cases t with
  | nil => simp [listOf, h, bind, Except.bind, pure, Except.pure, Value.isTruthy]
  | cons c rest => simp [listOf, h, bind, Except.bind, Value.isTruthy, textOf_of_get h]

theorem fileFor_ofSettings (s : Settings) (fileLogging : Bool) :
    (ofSettings s).fileFor fileLogging = .ok (s.value .logFile) := by
  cases fileLogging <;> rfl

theorem meaning_ofSettings (s : Settings) : (ofSettings s).meaning = .ok s := by
  have hget := get_ofSettings s
  simp only [meaning, listOf_of_get (hget .httpVerbs), listOf_of_get (hget .contentTypes),
    listOf_of_get (hget .acceptTypes), textOf_of_get (hget .annotationMarker),
    textOf_of_get (hget .logLevel), hget, fileFor_ofSettings, bind, Except.bind, pure, Except.pure]
  obtain ⟨verbs, contents, accepts, marker, debug, level, file, fileLogging⟩ := s
  cases file <;> rfl

theorem values_ofSettings (s : Settings) : (ofSettings s).values = s.values := rfl

theorem logSetup_ofSettings (s : Settings) : (ofSettings s).logSetup s = s.logSetup := by
  simp only [logSetup, get_ofSettings]
  obtain ⟨verbs, contents, accepts, marker, debug, level, file, fileLogging⟩ := s
  cases fileLogging <;> rcases file with _ | _ | _ <;> rfl

/-- There is always something to see of settings that have not been assigned. -/
theorem view_ofSettings (s : Settings) :
    (ofSettings s).view = .ok ⟨s.values, s, s.logSetup⟩ := by
  have h : (ofSettings s).view =
      (ofSettings s).meaning.bind fun meaning =>
        .ok ⟨(ofSettings s).values, meaning, (ofSettings s).logSetup meaning⟩ := rfl
  rw [h, meaning_ofSettings, values_ofSettings]
  exact congrArg (fun l => Except.ok (SettingsView.mk s.values s l)) (logSetup_ofSettings s)

end AssignedSettings
end VerbDoc
