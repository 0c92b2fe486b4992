import VerbDoc.Settings.Basic

/-!
# Settings given as arguments

Settings can be given as the words of a command line: the name of a setting behind two dashes and
in any case, and its text in the next word, or in the same word behind an equals sign.
-/
namespace VerbDoc.Settings

namespace Arguments

/-- A word as it is read. What follows one or two dashes, up to white space or an equals sign, is
in lower case, and such a word ends with its line. -/
def normal (word : Text) : Text :=
  match word with
  | '-' :: rest =>
    let ends (c : Char) : Bool := Text.isBlank c || c == '='
    match rest.takeWhile fun c => !ends c with
    | [] => word
    | flag => Text.lower ('-' :: flag) ++ (rest.dropWhile fun c => !ends c).takeWhile (· != '\n')
  | _ => word

/-- The setting that a word names, and its text if that is in the same word. -/
def option? (word : Text) : Option (Setting × Option Text) :=
  (Text.after? "--".toList word).bind fun body =>
    match Setting.ofName? body with
    | some setting => some (setting, none)
    | none =>
      match body.dropWhile (· != '=') with
      | _ :: text => (Setting.ofName? (body.takeWhile (· != '='))).map fun s => (s, some text)
      | [] => none

/-- The digits of a number, which may have a point before the last of them. -/
def isUnsigned (t : Text) : Bool :=
  match t.dropWhile Char.isDigit with
  | [] => !t.isEmpty
  | '.' :: fraction => !fraction.isEmpty && fraction.all Char.isDigit
  | _ => false

/-- A word is the text of the setting before it. One with a dash in front is none, unless it is a
number or has a space in it, and then it neither names a setting nor asks for help. -/
def isText (word : Text) : Bool :=
  match word with
  | '-' :: rest =>
    if (option? word).isSome then false
    else rest.isEmpty || isUnsigned rest || (rest.contains ' ' && rest.head? != some 'h')
  | _ => true

def read : List Text → Except Fault (List (Setting × Text))
  | [] => .ok []
  | [word] =>
    match option? word with
    | some (setting, some text) => .ok [(setting, text)]
    | _ => .error .unknownArguments
  | word :: next :: rest =>
    match option? word with
    | some (setting, some text) => (read (next :: rest)).map ((setting, text) :: ·)
    | some (setting, none) =>
      if isText next then (read rest).map ((setting, next) :: ·) else .error .unknownArguments
    | none => .error .unknownArguments

def valueOf (text : Text) : Value := if text = "null".toList then .null else .text text

def fieldName : Text := "_cli_parse_args".toList

/-- There are no arguments in the place of arguments, or nothing is said of where they are. -/
def isIdle : Value → Bool
  | .null | .bool _ => true
  | .int n => n == 0
  | .float x => x.whole? == some 0
  | _ => false

/-- The settings with their values that the arguments among fields give. Arguments are a list of
texts. -/
def ofFields (fields : Fields) : Except Fault (List (Setting × Value)) :=
  match (fields.get? fieldName).getD .null with
  | .list items =>
    match items.mapM Value.asText? with
    | some words => (read (words.map normal)).map fun given => given.map fun e => (e.1, valueOf e.2)
    | none => .error .wrongType
  | v =>
    if isIdle v then .ok []
    else
      .error <| .rejected <|
        "cli_parse_args must be a list or tuple of strings, received <class '".toList ++
          v.typeName ++ "'>".toList

end Arguments

/-- The settings with the given fields, and standard values elsewhere. Arguments come before
fields, and the last of several for one setting counts. -/
def ofFields (fields : Fields) : Except Fault Settings := do
  checkOptions fields
  let arguments ← Arguments.ofFields fields
  build (fun setting => (arguments.reverse.lookup setting).or (given fields setting)) standard

end VerbDoc.Settings
