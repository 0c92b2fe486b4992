import VerbDoc.Settings.Basic

/-!
# How logging is set up

The settings decide the least urgent level that is logged and the file that is logged to. The
level is given by its name in any case; debugging lowers it to the level of debug events. Logging
goes to a file when that is on and the file has a name, and it cannot be set up with what is no
level.
-/
namespace VerbDoc

/-- What logging is set up with. -/
structure LogSetup where
  level : Value
  file : Option Value
  deriving Repr

namespace LogSetup

/-- The forms in which events may be written, by the character that marks a part of one. -/
def forms : List (Text × Value) :=
  [("%", "%(levelname)s:%(name)s:%(message)s"),
   ("\x7b", "\x7blevelname\x7d:\x7bname\x7d:\x7bmessage\x7d"),
   ("$", "$\x7blevelname\x7d:$\x7bname\x7d:$\x7bmessage\x7d")].map
    fun e => (e.1.toList, .text e.2.toList)

/-- What the names stand for that may be given as that of a level: a number each, but for two of
them, which stand for a form in which events are written and for all such forms. -/
def levels : List (Text × Value) :=
  [("NOTSET", .int 0), ("DEBUG", .int 10), ("INFO", .int 20), ("WARNING", .int 30),
   ("WARN", .int 30), ("ERROR", .int 40), ("CRITICAL", .int 50), ("FATAL", .int 50),
   ("BASIC_FORMAT", .text "%(levelname)s:%(name)s:%(message)s".toList),
   ("_STYLES", .object forms)].map
    fun e => (e.1.toList, e.2)

/-- The level with the given name in any case; an unknown name counts as INFO. -/
def levelNamed (name : Text) : Value := (levels.lookup (Text.upper name)).getD (.int 20)

/-- The level in force, which is that of debug events while debugging. -/
def effectiveLevel (debug : Bool) (name : Text) : Value :=
  if debug then .int 10 else levelNamed name

/-- How it ends that a value is taken for a level: a number is one, and a text is if it is the name
of one. -/
def checkLevel : Value → Except Fault Unit
  | .int _ => .ok ()
  | .text name =>
    match levels.lookup name with
    | some (.int _) => .ok ()
    | _ => .error (.rejected ("Unknown level: ".toList ++ Text.quoted name))
  | _ => .error .wrongType

/-- The set-up as named arguments in alphabetical order. A log file is appended to. -/
def arguments (l : LogSetup) : List (Text × Value) :=
  let file : List (Text × Value) :=
    match l.file with
    | some name => [("filemode".toList, .text ['a']), ("filename".toList, name)]
    | none => []
  ("datefmt".toList, .text "%Y-%m-%d %H:%M:%S".toList) :: file ++
    [("format".toList, .text "%(asctime)s - %(name)s - %(levelname)s - %(message)s".toList),
     ("level".toList, l.level)]

end LogSetup

namespace Settings

/-- The file that is logged to, if logging to a file is on and the file has a name. -/
def effectiveFile? (s : Settings) : Option Text :=
  match s.fileLogging, s.logFile with
  | true, some (c :: rest) => some (c :: rest)
  | _, _ => none

def logSetup (s : Settings) : LogSetup where
  level := LogSetup.effectiveLevel s.debug s.logLevel
  file := s.effectiveFile?.map .text

/-- How setting up logging ends, given how it ends to open a file for it. Where logging runs
already, nothing is done. A file is opened before the level is looked at. -/
def startLogging (s : Settings) (running : Bool) (opening : Text → Except Fault Unit) :
    Except Fault Unit :=
  if running then .ok ()
  else do
    s.effectiveFile?.forM opening
    LogSetup.checkLevel s.logSetup.level

end Settings
end VerbDoc
