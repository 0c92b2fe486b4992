import VerbDoc.Fault
import VerbDoc.Text.Lists

/-!
# Checking the fields of a record

A record is built from named fields, all of which are checked even when one is at fault. Main
statement: building succeeds exactly when no field is at fault.
-/
namespace VerbDoc

/-- A checked result, or the names of the fields at fault. -/
inductive Checked (α : Type) where
  | valid (value : α)
  | invalid (names : List Text)
  deriving DecidableEq, Repr

namespace Checked

variable {α β : Type}

/-- Applies a checked function to a checked argument; the faults of both are kept. -/
def apply : Checked (α → β) → Checked α → Checked β
  | .valid f, .valid a => .valid (f a)
  | .valid _, .invalid names => .invalid names
  | .invalid names, .valid _ => .invalid names
  | .invalid names, .invalid more => .invalid (names ++ more)

instance : Applicative Checked where
  pure := valid
  seq f x := apply f (x ())

/-- The result, or one fault that names the fields in order and without repetition. -/
def toExcept : Checked α → Except Fault α
  | .valid a => .ok a
  | .invalid names => .error (.invalidFields (Text.sortedSet names))

theorem apply_eq_valid_iff (f : Checked (α → β)) (x : Checked α) (b : β) :
    f.apply x = .valid b ↔ ∃ g a, f = .valid g ∧ x = .valid a ∧ g a = b := by
  cases f <;> cases x <;> simp [apply]

end Checked

namespace Fields

/-- The field `name`, read by `read`; absent, it has the default value. -/
def check {α : Type} (fields : Fields) (name : Text) (read : Value → Option α) (default : α) :
    Checked α :=
  match fields.get? name with
  | none => .valid default
  | some v =>
    match read v with
    | some a => .valid a
    | none => .invalid [name]

/-- A field that goes by two names, of which the first wins. -/
def checkEither {α : Type} (fields : Fields) (first second : Text) (read : Value → Option α)
    (default : α) : Checked α :=
  if fields.contains first then fields.check first read default
  else fields.check second read default

end Fields

end VerbDoc
