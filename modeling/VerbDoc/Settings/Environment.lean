import VerbDoc.Settings.Basic
import VerbDoc.Settings.EnvFile
import VerbDoc.Settings.LogSetup

/-!
# Settings from the environment

A setting is read from the environment variable of its name in any case, else from a file of
such variables, else from its default. The default is itself read from the environment under the
exact upper-case name, by simpler rules: any text but `true` in any case means no.

At the start of a program a file of variables is first adopted into the environment: those that the
environment does not have under the very same name become part of it. Once the settings are read,
logging is set up by them. Each of the three steps may fail, and then no settings are loaded.
-/
namespace VerbDoc.Settings

/-- Where settings are loaded from. -/
structure Environment where
  bindings : OrderedMap Text Text
  file : Option Text
  deriving DecidableEq, Repr

namespace Environment

/-- What the last variable whose name agrees with the setting in lower case is bound to. -/
def lastNamed? {α : Type} (bindings : List (Text × α)) (setting : Setting) : Option α :=
  (bindings.reverse.find? fun v => Text.lower v.1 == setting.name).map Prod.snd

/-- The text a setting is given: by the environment, else by the file, where a variable without a
value gives none. -/
def givenText? (e : Environment) (setting : Setting) : Option Text :=
  match lastNamed? e.bindings.entries setting with
  | some t => some t
  | none =>
    e.file.bind fun file =>
      (lastNamed? (EnvFile.assignments e.bindings file).entries setting).bind id

def given (e : Environment) (setting : Setting) : Option Value := (e.givenText? setting).map .text

/-- The variable with exactly the upper-case name of the setting. -/
def namedExactly? (e : Environment) (setting : Setting) : Option Text :=
  e.bindings.get? (Text.upper setting.name)

/-- The default of a switch: on if the text is `true` in any case. -/
def declaredSwitch (e : Environment) (setting : Setting) : Bool :=
  match e.namedExactly? setting with
  | some t => Text.lower t == "true".toList
  | none => false

def declared (e : Environment) : Settings where
  httpVerbs := (e.namedExactly? .httpVerbs).getD standard.httpVerbs
  contentTypes := (e.namedExactly? .contentTypes).getD standard.contentTypes
  acceptTypes := (e.namedExactly? .acceptTypes).getD standard.acceptTypes
  annotationMarker := (e.namedExactly? .annotationMarker).getD standard.annotationMarker
  debug := e.declaredSwitch .debug
  logLevel := (e.namedExactly? .logLevel).getD standard.logLevel
  logFile := e.namedExactly? .logFile
  fileLogging := e.declaredSwitch .fileLogging

/-- A text that can be stored in an environment: it has no null character. -/
def checkText (t : Text) : Except Fault Unit :=
  if t.contains '\x00' then .error (.rejected "embedded null byte".toList) else .ok ()

/-- The outcome of binding a variable. A name is not empty and has no equals sign. -/
def checkBinding (name value : Text) : Except Fault Unit := do
  checkText name
  checkText value
  if name.contains '=' then throw (.rejected "illegal environment variable name".toList)
  if name.isEmpty then throw .unnamedVariable

def ofBindings (bindings : List (Text × Text)) (file : Option Text) : Except Fault Environment := do
  bindings.forM fun b => checkBinding b.1 b.2
  return ⟨.ofList bindings, file⟩

def load (e : Environment) : Except Fault Settings := build e.given e.declared

end Environment

/-! ## The start of a program -/

namespace Environment

/-- The variables after one of a file has been adopted, or left aside because its name is taken or
because it has no value. -/
def adoptVariable (bindings : OrderedMap Text Text) (v : Text × Option Text) :
    Except Fault (OrderedMap Text Text) :=
  match v with
  | (_, none) => .ok bindings
  | (name, some value) =>
    if bindings.contains name then .ok bindings
    else (checkBinding name value).map fun _ => bindings.insert name value

def adopt (e : Environment) (file : Text) : Except Fault Environment :=
  ((EnvFile.adoptions e.bindings file).entries.foldlM adoptVariable e.bindings).map
    fun bindings => { e with bindings }

end Environment

/-- What loading the settings finds at the start. -/
structure Startup where
  environment : Environment
  /-- The file that is adopted into the environment, which need not be the one that the settings are
  read from. -/
  adopted : Option Text
  /-- Logging has been set up before. -/
  running : Bool
  /-- How it ends to open a file of the given name for logging. -/
  opening : Text → Except Fault Unit

namespace Startup

/-- The environment that the settings are read from. -/
def enlarged (u : Startup) : Except Fault Environment :=
  u.adopted.elim (.ok u.environment) u.environment.adopt

/-- The settings that are loaded, after which logging has been set up. -/
def load (u : Startup) : Except Fault Settings := do
  let e ← u.enlarged
  let settings ← e.load
  settings.startLogging u.running u.opening
  return settings

end Startup
end VerbDoc.Settings
