import VerbDoc.Documentation.Basic

/-!
# Roles of documentation lines

An undecorated line opens a tag, continues the open one, closes it, or stands outside any tag.
Main statement: only a line that starts with the marker opens a tag, under a key that is a word
of ASCII letters.
-/
namespace VerbDoc

/-- What an undecorated line contributes. -/
inductive LineRole where
  /-- The line starts a tag. -/
  | opens (key token text : Text)
  /-- The line goes on with the open tag. -/
  | continues (key token text : Text)
  /-- The line closes the open tag and contributes nothing. -/
  | closes
  /-- Plain text outside any tag. -/
  | stray
  deriving DecidableEq, Repr

/-- A foreign tag or a comment delimiter starts with one of these. -/
def LineRole.isForeign (c : Char) : Bool := c == '@' || c == '/'

/-- The role of a line while the tag with the token `active` is open. A line that starts with
the marker opens the tag named by the ASCII letters after it, or closes the open tag if there are
none. -/
def Marker.role (m : Marker) (line : Text) (active : Option Text) : LineRole :=
  match Text.after? m.text line with
  | some rest =>
    let name := rest.takeWhile Char.isAlpha
    if name.isEmpty then .closes else .opens (Text.decapitalize name) (m.text ++ name) line
  | none =>
    match line with
    | [] => .closes
    | c :: _ =>
      if LineRole.isForeign c then .closes
      else
        match active with
        | none | some [] => .stray
        | some token => .continues (Text.decapitalize (token.drop m.text.length)) token line

/-- A line that opens a tag starts with the token, which is the marker and a name. -/
theorem Marker.exists_name_of_role_opens {m : Marker} {line key token text : Text}
    {active : Option Text} (h : m.role line active = .opens key token text) :
    ∃ name rest, name ≠ [] ∧ (∀ c ∈ name, c.isAlpha = true) ∧ line = m.text ++ name ++ rest ∧
      key = Text.decapitalize name ∧ token = m.text ++ name ∧ text = line := by
  unfold Marker.role at h
  split at h
  · next rest hrest =>
    dsimp only at h
    split at h
    · simp at h
    · next hname =>
      obtain ⟨rfl, rfl, rfl⟩ := LineRole.opens.inj h
      refine ⟨rest.takeWhile Char.isAlpha, rest.dropWhile Char.isAlpha, ?_, ?_, ?_, rfl, rfl, rfl⟩
      · simpa using hname
      · exact fun c hc => List.all_eq_true.1 List.all_takeWhile c hc
      · rw [List.append_assoc, List.takeWhile_append_dropWhile]
        exact Text.after?_eq_some_iff.1 hrest
  · split at h
    · simp at h
    · split at h
      · simp at h
      · split at h <;> simp at h

end VerbDoc
