import VerbDoc.Text.Case.Context
import VerbDoc.Text.Case.Table

/-!
# Upper and lower case

Both mappings are the full ones of Unicode: a character may become several (`ß` becomes `SS`),
and a capital sigma becomes a final sigma where it ends a word.
-/
namespace VerbDoc.Text

namespace Case

/-- The image of one character under a mapping; a character without an entry is kept. -/
def image (expansions : List (Nat × List Nat)) (runs : List Run) (c : Char) : Text :=
  match expansions.lookup c.toNat with
  | some codes => codes.map Char.ofNat
  | none =>
    match runs.findSome? (Run.image? · c.toNat) with
    | some code => [Char.ofNat code]
    | none => [c]

def upperChar (c : Char) : Text := image upperExpansions upperRuns c

def lowerChar (c : Char) : Text := image lowerExpansions lowerRuns c

/-- The first character that is not looked through has a case. -/
def meetsCased (t : Text) : Bool :=
  match t.dropWhile isIgnorable with
  | [] => false
  | c :: _ => isCased c

/-- Lower case of `c` between `before`, read backwards, and `after`. A capital sigma is final
when a cased character comes before it and none comes after it. -/
def lowerCharIn (before : Text) (c : Char) (after : Text) : Text :=
  if c = 'Σ' then
    if meetsCased before && !meetsCased after then ['ς'] else ['σ']
  else lowerChar c

/-- Lower case of a text that follows `before`, which is read backwards. -/
def lowerAfter (before : Text) : Text → Text
  | [] => []
  | c :: rest => lowerCharIn before c rest ++ lowerAfter (c :: before) rest

end Case

def upper (t : Text) : Text := t.flatMap Case.upperChar

def lower (t : Text) : Text := Case.lowerAfter [] t

/-- The text with its first character, taken on its own, in lower case. -/
def decapitalize (t : Text) : Text := lower (t.take 1) ++ t.drop 1

/-- Lower case for the ASCII letters alone. -/
def lowerAscii (t : Text) : Text := t.map Char.toLower

theorem decapitalize_cons (c : Char) (rest : Text) :
    decapitalize (c :: rest) = lower [c] ++ rest := rfl

end VerbDoc.Text
