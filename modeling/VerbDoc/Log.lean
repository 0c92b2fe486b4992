import VerbDoc.Text.Printable

/-!
# Log

What the library reports while it works, as data. The level, the reporting part and the wording
of an event are functions of the event alone.
-/
namespace VerbDoc.Log

/-- How urgent an event is. -/
inductive Level where
  | debug | info | warning
  deriving DecidableEq, Repr

/-- The part of the library that reports an event. -/
inductive Source where
  | settings | documentation | operations | endpoint
  deriving DecidableEq, Repr

/-- Something worth reporting. -/
inductive Event where
  /-- A documentation text gave tags with these keys. -/
  | tagsParsed (keys : List Text)
  /-- The verbs that a handler class implements were listed. -/
  | verbsListed (handler : Text) (verbs : List Text)
  | headRefused (handler : Text)
  | optionsRefused (handler : Text)
  | optionsAnswered (handler : Text) (allowed documented : List Text)
  /-- The settings gave no cause for complaint. -/
  | settingsAccepted
  /-- The settings gave cause for complaint; the complaints follow. -/
  | settingsQuestioned
  | complaint (setting reason : Text)
  deriving DecidableEq, Repr

namespace Event

def level : Event → Level
  | .tagsParsed _ | .verbsListed _ _ | .settingsAccepted => .debug
  | .optionsAnswered _ _ _ => .info
  | .headRefused _ | .optionsRefused _ | .settingsQuestioned | .complaint _ _ => .warning

def source : Event → Source
  | .tagsParsed _ => .documentation
  | .verbsListed _ _ => .operations
  | .headRefused _ | .optionsRefused _ | .optionsAnswered _ _ _ => .endpoint
  | .settingsAccepted | .settingsQuestioned | .complaint _ _ => .settings

def message : Event → Text
  | .tagsParsed keys => "Parsed documentation tags: ".toList ++ Text.listed keys
  | .verbsListed handler verbs =>
    handler ++ " implements verbs: ".toList ++ Text.quotedList verbs
  | .headRefused handler => "HEAD refused for ".toList ++ handler ++ ": no GET method".toList
  | .optionsRefused handler =>
    "OPTIONS refused for ".toList ++ handler ++ ": no response attached".toList
  | .optionsAnswered handler allowed documented =>
    "OPTIONS ".toList ++ handler ++ ": allow=".toList ++ Text.quotedList allowed ++
      ", documented=".toList ++ Text.quotedList documented
  | .settingsAccepted => "Environment validation: All checks passed".toList
  | .settingsQuestioned => "Environment validation found issues:".toList
  | .complaint setting reason => ' ' :: ' ' :: setting ++ ": ".toList ++ reason

end Event
end VerbDoc.Log
