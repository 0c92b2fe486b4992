import VerbDoc.Documentation.Basic
import VerbDoc.Fault

/-!
# Merging lines into documentation

A line that starts with the token of its tag, such as `@apiUri`, is fresh and begins a new element;
any other line continues the last element. The first line of a tag makes it a single value, and a
fresh line turns a single value into several. Main statements: a line is fresh for a token exactly
when it is the token, white space and more text, and then that text is returned trimmed; merging
touches only the key it is given.
-/
namespace VerbDoc

/-! ## Tag tokens -/

namespace Documentation

/-- The trimmed line without a leading token, and whether the token was there. It counts as
there only if it is not empty and white space follows it. -/
def splitToken (token line : Text) : Text × Bool :=
  let trimmed := Text.trim line
  if token.isEmpty then (trimmed, false)
  else
    match Text.after? token trimmed with
    | some (c :: rest) => if Text.isBlank c then (Text.trim rest, true) else (trimmed, false)
    | _ => (trimmed, false)

/-- A line that is not fresh is returned whole, trimmed. -/
theorem splitToken_of_not_fresh {token line : Text} (h : (splitToken token line).2 = false) :
    (splitToken token line).1 = Text.trim line := by
  unfold splitToken at *
  dsimp only at *
  split at h
  · simp_all
  · split at h
    · split at h <;> simp_all
    · simp_all

/-- A line is fresh exactly when it is the token, white space and the text that is returned. -/
theorem splitToken_eq_fresh_iff {token line text : Text} :
    splitToken token line = (text, true) ↔
      token ≠ [] ∧ ∃ c rest, Text.trim line = token ++ c :: rest ∧ Text.isBlank c = true ∧
        text = Text.trim rest := by
  unfold splitToken
  dsimp only
  cases token with
  | nil => simp
  | cons a more =>
    simp only [List.isEmpty_cons, Bool.false_eq_true, if_false, ne_eq, reduceCtorEq,
      not_false_eq_true, true_and]
    constructor
    · intro h
      split at h
      · next c rest heq =>
        split at h
        · next hc =>
          simp only [Prod.mk.injEq, and_true] at h
          exact ⟨c, rest, Text.after?_eq_some_iff.1 heq, hc, h.symm⟩
        · simp at h
      · simp at h
    · rintro ⟨c, rest, hline, hc, rfl⟩
      have : Text.after? (a :: more) (Text.trim line) = some (c :: rest) :=
        Text.after?_eq_some_iff.2 hline
      rw [this]
      simp [hc]

end Documentation

/-! ## Values of a tag -/

namespace TagValue

/-- Two texts with a space between them; an empty one leaves the other as it is. -/
def joinTexts (current addition : Text) : Text :=
  if current.isEmpty then addition
  else if addition.isEmpty then current
  else current ++ ' ' :: addition

/-- The texts with `addition` joined to the last one, which is begun if there is none. -/
def extendLast (addition : Text) : List Text → List Text
  | [] => [addition]
  | [last] => [joinTexts last addition]
  | text :: rest => text :: extendLast addition rest

def extend (value : TagValue) (line token : Text) : TagValue :=
  let (text, fresh) := Documentation.splitToken token line
  match value with
  | .single old => if fresh then .many [old, text] else .single (joinTexts old text)
  | .many olds => if fresh then .many (olds ++ [text]) else .many (extendLast text olds)

end TagValue

namespace Documentation

/-- The documentation after one more line of a tag that is already there. -/
def extendTag (doc : Documentation) (key line token : Text) : Except Fault Documentation :=
  match doc.get? key with
  | some value => .ok (doc.insert key (value.extend line token))
  | none => .error (.missingKey key)

/-- The documentation after one more line of a tag. Without a token there is no tag to begin,
so a line of an unknown key is then dropped. -/
def addLine (doc : Documentation) (key line token : Text) : Documentation :=
  match doc.get? key with
  | some value => doc.insert key (value.extend line token)
  | none =>
    if token.isEmpty then doc
    else doc.insert key (.single (splitToken token line).1)

/-- Merging a line leaves the other keys alone. -/
theorem get?_addLine_of_ne (doc : Documentation) {key other : Text} (line token : Text)
    (h : other ≠ key) : (addLine doc key line token).get? other = doc.get? other := by
  unfold addLine
  split
  · simp [OrderedMap.get?_insert, h]
  · split
    · rfl
    · simp [OrderedMap.get?_insert, h]

end Documentation
end VerbDoc
