import VerbDoc.OrderedMap.Lemmas
import VerbDoc.Settings.EnvFile.Entry
import VerbDoc.Settings.EnvFile.Reference

/-!
# Files of environment variables

Such a file gives values to variables, one entry after another. A value may refer to the
variables of the entries before it and to those of the environment. Where the settings are read
from the file, the former come first, and where it is adopted into the environment, the latter. Main
statement: the last entry for a name decides its value.
-/
namespace VerbDoc.Settings.EnvFile

open Text

/-- The text without a byte-order mark in front of it. -/
def dropMark : Text → Text
  | '\uFEFF' :: rest => rest
  | t => t

/-- What a file says: a byte-order mark does not count, and every line ends with a line feed. -/
def content (file : Text) : Text := joinWith ['\n'] (lines (dropMark file))

/-- The variables that entries have given values to, or left without one. -/
abbrev Variables := OrderedMap Text (Option Text)

/-- The text that a reference to a variable stands for where those of the file come first. A
variable without a value is empty. -/
def lookup (environment : OrderedMap Text Text) (known : Variables) (name : Text) : Option Text :=
  match known.get? name with
  | some value => some (value.getD [])
  | none => environment.get? name

/-- The text that a reference to a variable stands for where those of the environment come first. -/
def lookupBehind (environment : OrderedMap Text Text) (known : Variables) (name : Text) :
    Option Text :=
  match environment.get? name with
  | some t => some t
  | none => (known.get? name).map fun value => value.getD []

/-- The variables after one more entry, of which the references stand for what `look` finds. -/
def enter (look : Variables → Text → Option Text) (known : Variables) (entry : Entry) :
    Variables :=
  known.insert entry.1 (entry.2.map (substitute (look known)))

/-- The variables that entries give values to, each in the place of its first entry and with the
value of its last one. -/
def variablesOf (look : Variables → Text → Option Text) (es : List Entry) : Variables :=
  es.foldl (enter look) ∅

def assignments (environment : OrderedMap Text Text) (file : Text) : Variables :=
  variablesOf (lookup environment) (entries (content file))

def adoptions (environment : OrderedMap Text Text) (file : Text) : Variables :=
  variablesOf (lookupBehind environment) (entries (content file))

section Enter

variable {look : Variables → Text → Option Text}

theorem get?_enter (known : Variables) (entry : Entry) (name : Text) :
    (enter look known entry).get? name =
      if name = entry.1 then some (entry.2.map (substitute (look known)))
      else known.get? name := by
  rw [enter, OrderedMap.get?_insert]

/-- The last entry for a name decides its value. -/
theorem get?_foldl_enter_of_not_mem {name : Text} {es : List Entry} (h : name ∉ es.map Prod.fst)
    (known : Variables) : (es.foldl (enter look) known).get? name = known.get? name := by
  induction es generalizing known with
  | nil => rfl
  | cons e rest ih =>
    rw [List.map_cons, List.mem_cons, not_or] at h
    rw [List.foldl_cons, ih h.2, get?_enter, if_neg h.1]

end Enter

end VerbDoc.Settings.EnvFile
