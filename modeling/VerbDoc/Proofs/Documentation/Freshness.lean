import VerbDoc.Proofs.Documentation.Reading
import VerbDoc.Proofs.Documentation.Rendering

/-!
# Tokens and fresh lines

The token of a tag is looked for twice. A line opens the tag with it, and when the lines of the tag
are merged, each one is fresh or not as it begins with it. Both have to cut the opening line at the
same place, and no other line of the tag may pass for a fresh one. Main statement: the line that
opens a tag is fresh exactly if white space follows all the letters of its token, and no line that
goes on with the tag is.
-/
namespace VerbDoc

/-- A line cut behind the token of the tag that it opens: the marker and all letters after it. -/
structure Marker.CutsToken (m : Marker) (line key token rest : Text) : Prop where
  line_eq : line = token ++ rest
  exists_name : ∃ name, name ≠ [] ∧ (∀ c ∈ name, c.isAlpha = true) ∧ token = m.text ++ name ∧
    key = Text.decapitalize name
  stops : ∀ c, rest.head? = some c → c.isAlpha = false

/-- What comes behind the token decides whether a line is fresh. -/
structure Documentation.TellsFresh (token line rest : Text) : Prop where
  fresh_iff : (splitToken token line).2 = true ↔ ∃ c, rest.head? = some c ∧ Text.isBlank c = true
  /-- A fresh line is the token, white space and the text that is left of it. -/
  of_fresh : (splitToken token line).2 = true →
    (splitToken token line).1 ≠ [] ∧ Text.Trimmed (splitToken token line).1 ∧
      ∃ gap, gap ≠ [] ∧ Text.Blank gap ∧ line = token ++ gap ++ (splitToken token line).1
  of_not_fresh : (splitToken token line).2 = false → (splitToken token line).1 = line

namespace Documentation

/-- White space at the head of the last part of a line is followed by something else. -/
theorem exists_gap {before more : Text} {c : Char}
    (htrimmed : Text.Trimmed (before ++ c :: more)) (hblank : Text.isBlank c = true) :
    ∃ gap, gap ≠ [] ∧ Text.Blank gap ∧ c :: more = gap ++ Text.trim (c :: more) := by
  obtain ⟨gap, hgap, hmore⟩ := Text.exists_blank_append_trim htrimmed
  refine ⟨gap, ?_, hgap, hmore⟩
  rintro rfl
  have hhead : (Text.trim (c :: more)).head? = some c := by
    rw [← List.nil_append (Text.trim _), ← hmore]
    rfl
  rw [(Text.trimmed_trim _).1 c hhead] at hblank
  cases hblank

theorem tellsFresh_append {token rest : Text} (hne : token ≠ [])
    (htrimmed : Text.Trimmed (token ++ rest)) : TellsFresh token (token ++ rest) rest := by
  have hsplit := splitToken_append hne htrimmed
  cases rest with
  | nil =>
    have hwhole : splitToken token token = (token, false) := by simpa using hsplit
    exact ⟨by simp [hwhole], by simp [hwhole], by simp [hwhole]⟩
  | cons c more =>
    cases hblank : Text.isBlank c with
    | false =>
      have hwhole : splitToken token (token ++ c :: more) = (token ++ c :: more, false) := by
        simpa [hblank] using hsplit
      exact ⟨by simp [hwhole, hblank], by simp [hwhole], by simp [hwhole]⟩
    | true =>
      have hfresh : splitToken token (token ++ c :: more) = (Text.trim (c :: more), true) := by
        simpa [hblank] using hsplit
      have htext := Text.trim_ne_nil_of_trimmed_append htrimmed (by simp)
      obtain ⟨gap, hgap, hgapBlank, hmore⟩ := exists_gap htrimmed hblank
      refine ⟨by simp [hfresh, hblank], fun _ => ?_, by simp [hfresh]⟩
      rw [hfresh]
      refine ⟨htext, Text.trimmed_trim _, gap, hgap, hgapBlank, ?_⟩
      show token ++ c :: more = token ++ gap ++ Text.trim (c :: more)
      rw [List.append_assoc, ← hmore]

end Documentation

namespace Marker

open Documentation

variable {m : Marker} {line key token text : Text} {active : Option Text}

/-- Only a line with a name opens a tag. -/
theorem splitName?_of_role_opens (h : m.role line active = .opens key token text) :
    ∃ name rest, m.splitName? line = some (name, rest) ∧ key = Text.decapitalize name ∧
      token = m.text ++ name := by
  cases hname : m.splitName? line with
  | some parts =>
    rw [role_of_splitName? hname] at h
    cases h
    exact ⟨parts.1, parts.2, rfl, rfl, rfl⟩
  | none =>
    obtain ⟨name, rest, -, -, hline, -⟩ := m.exists_name_of_role_opens h
    have hends : m.endsBlock line = true := by simp [endsBlock, hline]
    rw [role_of_endsBlock hname hends] at h
    cases h

theorem endsBlock_of_role_continues (h : m.role line active = .continues key token text) :
    m.endsBlock line = false := by
  by_contra hends
  rw [Bool.not_eq_false] at hends
  cases hname : m.splitName? line with
  | some parts =>
    rw [role_of_splitName? hname] at h
    cases h
  | none =>
    rw [role_of_endsBlock hname hends] at h
    cases h

/-- The token of a tag is found again in the line that opens it and in no line that goes on with it,
and the name that is read off the token gives the same key. -/
theorem token_tellsFresh (hopens : m.role line active = .opens key token text) :
    (∃ rest, m.CutsToken line key token rest ∧
        (Text.Trimmed line → TellsFresh token line rest)) ∧
      ∀ other key' token' text', Text.Trimmed other →
        m.role other (some token) = .continues key' token' text' →
          key' = key ∧ splitToken token other = (other, false) := by
  obtain ⟨name, rest, hname, rfl, rfl⟩ := splitName?_of_role_opens hopens
  obtain ⟨rfl, hne, hletters, hstops⟩ := splitName?_eq_some_iff.1 hname
  refine ⟨⟨rest, ⟨rfl, ⟨name, hne, hletters, rfl, rfl⟩, hstops⟩, ?_⟩, ?_⟩
  · exact tellsFresh_append (by simp [m.ne_nil])
  · intro other key' token' text' htrimmed hcontinues
    -- The line does not begin with the marker, so that it cannot begin with the token either.
    have hbelongs := endsBlock_of_role_continues hcontinues
    have hrole := role_of_not_endsBlock hbelongs (some name)
    rw [Option.map_some, hcontinues] at hrole
    cases hrole
    exact ⟨rfl, splitToken_of_not_endsBlock htrimmed hbelongs name⟩

/-- A marker of characters that stand for others in patterns. -/
def patternMarker : Marker := ⟨"$.*(".toList, by decide⟩

/-- A token under this marker, a line that opens its tag with wide white space behind the token, and
one that goes on with the tag and has the token inside it. -/
def patternToken : Text := "$.*(URI".toList
def patternOpening : Text := "$.*(URI\u3000\t/blog".toList
def patternOwned : Text := "or $.*(URI /b".toList

theorem token_tellsFresh_pattern :
    patternMarker.role patternOpening none = .opens "uRI".toList patternToken patternOpening ∧
      Text.Trimmed patternOpening ∧
      (∃ rest, patternMarker.CutsToken patternOpening "uRI".toList patternToken rest ∧
        TellsFresh patternToken patternOpening rest) ∧
      Text.Trimmed patternOwned ∧
      patternMarker.role patternOwned (some patternToken) =
        .continues "uRI".toList patternToken patternOwned ∧
      splitToken patternToken patternOwned = (patternOwned, false) := by
  have hopens : patternMarker.role patternOpening none =
      .opens "uRI".toList patternToken patternOpening := by decide
  have htrimmed : Text.Trimmed patternOpening := by decide
  have howned : Text.Trimmed patternOwned := by decide
  have hcontinues : patternMarker.role patternOwned (some patternToken) =
      .continues "uRI".toList patternToken patternOwned := by decide
  obtain ⟨⟨rest, hcuts, hfresh⟩, hgoesOn⟩ := token_tellsFresh hopens
  exact ⟨hopens, htrimmed, ⟨rest, hcuts, hfresh htrimmed⟩, howned, hcontinues,
    (hgoesOn _ _ _ _ howned hcontinues).2⟩

end Marker
end VerbDoc
