import VerbDoc.Log
import VerbDoc.Settings.Basic

/-!
# What can be wrong with settings

Settings of the right types may still be of no use: a list without items, a verb that no method
can stand for, a blank marker.
-/
namespace VerbDoc

/-- Something wrong with a setting. -/
inductive Complaint where
  | noVerbs
  /-- Verbs that are not in upper case match no method. -/
  | notUpperCase (verbs : List Text)
  | noContentTypes
  | noAcceptTypes
  | emptyMarker
  deriving DecidableEq, Repr

namespace Complaint

def setting : Complaint → Setting
  | .noVerbs | .notUpperCase _ => .httpVerbs
  | .noContentTypes => .contentTypes
  | .noAcceptTypes => .acceptTypes
  | .emptyMarker => .annotationMarker

def message : Complaint → Text
  | .noVerbs => "No valid HTTP verbs configured".toList
  | .notUpperCase verbs => "HTTP verbs must be upper-case: ".toList ++ Text.listed verbs
  | .noContentTypes => "No content types configured".toList
  | .noAcceptTypes => "No accept types configured".toList
  | .emptyMarker => "Annotation marker must not be empty".toList

end Complaint

namespace Settings

def notUpperCase (verbs : Text) : List Text :=
  (Text.commaItems verbs).filter fun verb => verb != Text.upper verb

def verbComplaints (verbs : Text) : List Complaint :=
  if (Text.commaItems verbs).isEmpty then [.noVerbs]
  else if (notUpperCase verbs).isEmpty then []
  else [.notUpperCase (notUpperCase verbs)]

def complaints (s : Settings) : List Complaint :=
  verbComplaints s.httpVerbs ++
    (if (Text.commaItems s.contentTypes).isEmpty then [.noContentTypes] else []) ++
    (if (Text.commaItems s.acceptTypes).isEmpty then [.noAcceptTypes] else []) ++
    (if (Text.trim s.annotationMarker).isEmpty then [.emptyMarker] else [])

def events (s : Settings) : List Log.Event :=
  if s.complaints.isEmpty then [.settingsAccepted]
  else .settingsQuestioned :: s.complaints.map fun c => .complaint c.setting.name c.message

end Settings
end VerbDoc
