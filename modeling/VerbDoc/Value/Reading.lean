import VerbDoc.Text.Case
import VerbDoc.Value.Basic
import VerbDoc.Value.WholeNumber

/-!
# Reading values as typed data

Each function says which values are accepted for a type, and as what. Whole numbers and truth
values are accepted in several spellings; texts and lists only as themselves.
-/
namespace VerbDoc.Value

def asText? : Value → Option Text
  | .text t => some t
  | _ => none

def asOptionalText? : Value → Option (Option Text)
  | .null => some none
  | v => (asText? v).map some

def asTexts? : Value → Option (List Text)
  | .list items => items.mapM asText?
  | _ => none

def asMapping? {α : Type} (read : Value → Option α) : Value → Option (OrderedMap Text α)
  | .object members =>
    (members.mapM fun m => (read m.2).map fun a => (m.1, a)).map OrderedMap.ofList
  | _ => none

/-- A floating-point number is accepted as a whole one if it is whole and its size is below
2 ^ 63. -/
def intOfFloating? (x : Floating) : Option Int :=
  match x.whole? with
  | some n => if n.natAbs < Nat.pow 2 63 then some n else none
  | none => none

/-- A whole number, also from a truth value, a whole floating-point number or a text. -/
def asInt? : Value → Option Int
  | .int n => some n
  | .bool b => some (if b then 1 else 0)
  | .float x => intOfFloating? x
  | .text t => Text.intOf? t
  | _ => none

/-- One and zero are truth values. -/
def boolOfInt? (n : Int) : Option Bool :=
  if n = 1 then some true else if n = 0 then some false else none

def trueWords : List Text := ["1", "true", "t", "yes", "y", "on"].map String.toList

def falseWords : List Text := ["0", "false", "f", "no", "n", "off"].map String.toList

/-- A word for yes or no, in any case of its ASCII letters. -/
def boolOfText? (t : Text) : Option Bool :=
  let word := Text.lowerAscii t
  if trueWords.contains word then some true
  else if falseWords.contains word then some false
  else none

def asBool? : Value → Option Bool
  | .bool b => some b
  | .int n => boolOfInt? n
  | .float x => (intOfFloating? x).bind boolOfInt?
  | .text t => boolOfText? t
  | _ => none

end VerbDoc.Value
