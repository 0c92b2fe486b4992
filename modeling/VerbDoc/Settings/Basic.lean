import VerbDoc.Text.Case
import VerbDoc.Text.Lists
import VerbDoc.Value.Checked
import VerbDoc.Value.Display
import VerbDoc.Value.Reading

/-!
# Settings

Eight named settings hold what an application configures. Texts that stand for lists are
comma-separated.
-/
namespace VerbDoc

/-- The settings there are. -/
inductive Setting where
  | httpVerbs | contentTypes | acceptTypes | annotationMarker | debug | logLevel | logFile
  | fileLogging
  deriving DecidableEq, Repr

namespace Setting

def all : List Setting :=
  [.httpVerbs, .contentTypes, .acceptTypes, .annotationMarker, .debug, .logLevel, .logFile,
   .fileLogging]

def name : Setting → Text
  | .httpVerbs => "valid_http_verbs".toList
  | .contentTypes => "content_types".toList
  | .acceptTypes => "accept_types".toList
  | .annotationMarker => "annotation_marker".toList
  | .debug => "debug".toList
  | .logLevel => "log_level".toList
  | .logFile => "log_file".toList
  | .fileLogging => "enable_file_logging".toList

def ofName? (t : Text) : Option Setting := all.find? fun s => s.name == t

end Setting

/-- A value for each setting. -/
structure Settings where
  httpVerbs : Text
  contentTypes : Text
  acceptTypes : Text
  annotationMarker : Text
  debug : Bool
  logLevel : Text
  logFile : Option Text
  fileLogging : Bool
  deriving DecidableEq, Repr

namespace Settings

def standard : Settings where
  httpVerbs := "GET,POST,PUT,PATCH,DELETE,HEAD,OPTIONS".toList
  contentTypes := "application/json".toList
  acceptTypes := "application/json".toList
  annotationMarker := "@api".toList
  debug := false
  logLevel := "INFO".toList
  logFile := none
  fileLogging := false

def value (s : Settings) : Setting → Value
  | .httpVerbs => .text s.httpVerbs
  | .contentTypes => .text s.contentTypes
  | .acceptTypes => .text s.acceptTypes
  | .annotationMarker => .text s.annotationMarker
  | .debug => .bool s.debug
  | .logLevel => .text s.logLevel
  | .logFile =>
    match s.logFile with
    | some file => .text file
    | none => .null
  | .fileLogging => .bool s.fileLogging

def values (s : Settings) : List (Text × Value) :=
  Setting.all.map fun setting => (setting.name, s.value setting)

/-- A given value as `read` accepts it, or the default where none is given. -/
def choose {α : Type} (given : Setting → Option Value) (setting : Setting)
    (read : Value → Option α) (default : α) : Checked α :=
  match given setting with
  | none => .valid default
  | some v =>
    match read v with
    | some a => .valid a
    | none => .invalid [setting.name]

def build (given : Setting → Option Value) (base : Settings) : Except Fault Settings :=
  Checked.toExcept <|
    Settings.mk
      <$> choose given .httpVerbs Value.asText? base.httpVerbs
      <*> choose given .contentTypes Value.asText? base.contentTypes
      <*> choose given .acceptTypes Value.asText? base.acceptTypes
      <*> choose given .annotationMarker Value.asText? base.annotationMarker
      <*> choose given .debug Value.asBool? base.debug
      <*> choose given .logLevel Value.asText? base.logLevel
      <*> choose given .logFile Value.asOptionalText? base.logFile
      <*> choose given .fileLogging Value.asBool? base.fileLogging

/-- The field that gives a setting: the first whose name agrees with it in lower case. -/
def given (fields : Fields) (setting : Setting) : Option Value :=
  (fields.entries.find? fun e => Text.lower e.1 == setting.name).map Prod.snd

/-- The values that an option of loading accepts: no value, one text or several of them. -/
def isTextual (several : Bool) : Value → Bool
  | .null | .text _ => true
  | .list items => several && items.all fun v => v.asText?.isSome
  | .object _ => several
  | _ => false

/-- A value counts for a number, as those do that count as nothing. -/
def isNumeric : Value → Bool
  | .null | .bool _ | .int _ | .float _ => true
  | v => !v.isTruthy

/-- How settings are loaded may be given beside their fields, and has to make sense: what the
names of variables start with is a text, how often they are parted is a number, and the files and
folders to read are texts. -/
def checkOptions (fields : Fields) : Except Fault Unit :=
  let accepts (name : String) (several : Bool) : Bool :=
    ((fields.get? name.toList).map (isTextual several)).getD true
  if fields.contains "__pydantic_self__".toList then .error .notCallable
  else if accepts "_env_prefix" false && accepts "_env_file" true && accepts "_secrets_dir" true &&
    ((fields.get? "_env_nested_max_split".toList).map isNumeric).getD true
  then .ok ()
  else .error .wrongType

def printedLine (e : Text × Value) : Text := ' ' :: ' ' :: e.1 ++ ": ".toList ++ e.2.display

def printed (s : Settings) : Text :=
  let names := Text.sortedSet (Setting.all.map Setting.name)
  let settings := names.filterMap Setting.ofName?
  Text.joinWith ['\n'] <|
    "Current Settings:".toList :: settings.map fun setting =>
      printedLine (setting.name, s.value setting)

end Settings
end VerbDoc
