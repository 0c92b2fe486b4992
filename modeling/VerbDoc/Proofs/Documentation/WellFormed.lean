import VerbDoc.Proofs.Documentation.Reading
import VerbDoc.Proofs.Documentation.Rendering
import VerbDoc.Proofs.Documentation.Undecorating

/-!
# Well-formed documentation

The keys of documentation that is read from a text are words, and its values are texts with
something in them: a single one, or at least two. The documentation is well-formed after each line,
so that a line always goes on with a text that is not empty. Main statement: this invariant, which
each line keeps whatever it does.
-/
namespace VerbDoc

/-- A text as it stands in documentation. -/
structure IsTagText (t : Text) : Prop where
  ne_nil : t ≠ []
  trimmed : Text.Trimmed t
  oneLine : Text.OneLine t

/-- A single text or at least two. -/
def TagValue.IsWellFormed : TagValue → Prop
  | .single text => IsTagText text
  | .many texts => 2 ≤ texts.length ∧ ∀ text ∈ texts, IsTagText text

/-- The keys are words with a small first letter, and the values are well-formed. -/
structure Documentation.IsWellFormed (doc : Documentation) : Prop where
  keys : ∀ key ∈ doc.keys, IsTagKey key
  values : ∀ e ∈ doc.entries, e.2.IsWellFormed

/-- A line goes on with a value in the plain way: a fresh line adds its text, and any other one is
put behind the last text with a space between them. There are rules of their own for a value without
texts, for an empty last text and for a line that adds nothing, and none of them applies. -/
structure TagValue.ExtendsPlainly (value : TagValue) (t : TagLine) : Prop where
  piece_ne_nil : t.piece.text ≠ []
  exists_last : ∃ before last, value.elements = before ++ [last] ∧ last ≠ [] ∧
    (value.extend t.line t.token).elements =
      if t.piece.fresh then before ++ [last, t.piece.text]
      else before ++ [last ++ ' ' :: t.piece.text]

/-! ## Texts -/

namespace IsTagText

/-- What is left of a line without its token still has something in it. White space follows the
token and none ends the line, so that there is more than white space behind the token. -/
theorem piece {t : TagLine} (h : IsTagText t.line) : IsTagText t.piece.text := by
  have htrim : Text.trim t.line = t.line := Text.trim_eq_self h.trimmed
  unfold TagLine.piece
  cases hsplit : Documentation.splitToken t.token t.line with
  | mk text fresh =>
    cases fresh with
    | false =>
      have hwhole := Documentation.splitToken_of_not_fresh (congrArg Prod.snd hsplit)
      rw [hsplit, htrim] at hwhole
      rwa [show text = t.line from hwhole]
    | true =>
      obtain ⟨-, c, rest, hline, hblank, rfl⟩ := Documentation.splitToken_eq_fresh_iff.1 hsplit
      rw [htrim] at hline
      have hne : Text.trim (c :: rest) ≠ [] :=
        Text.trim_ne_nil_of_trimmed_append (hline ▸ h.trimmed) (by simp)
      rw [Text.trim_cons_of_blank hblank] at hne
      refine ⟨hne, Text.trimmed_trim rest, ?_⟩
      intro d hd
      apply h.oneLine d
      rw [hline]
      simp [Text.mem_of_mem_trim hd]

theorem joinTexts {current addition : Text} (hcurrent : IsTagText current)
    (haddition : IsTagText addition) : IsTagText (TagValue.joinTexts current addition) := by
  rw [TagValue.joinTexts_of_ne_nil hcurrent.ne_nil haddition.ne_nil]
  refine ⟨by simp, ⟨?_, ?_⟩, ?_⟩
  · intro c hc
    rw [List.head?_append_of_ne_nil _ hcurrent.ne_nil] at hc
    exact hcurrent.trimmed.1 c hc
  · intro c hc
    have hlast := List.getLast?_eq_some_getLast haddition.ne_nil
    rw [List.getLast?_append, List.getLast?_cons, hlast] at hc
    exact haddition.trimmed.2 c (hlast.trans hc)
  · intro c hc
    rcases List.mem_append.1 hc with hc | hc
    · exact hcurrent.oneLine c hc
    · rcases List.mem_cons.1 hc with rfl | hc
      · rfl
      · exact haddition.oneLine c hc

end IsTagText

/-! ## Values -/

namespace TagValue.IsWellFormed

variable {value : TagValue} {t : TagLine}

theorem isTagText_of_mem_elements (hvalue : value.IsWellFormed) {text : Text}
    (htext : text ∈ value.elements) : IsTagText text := by
  cases value with
  | single old => exact List.mem_singleton.1 htext ▸ hvalue
  | many texts => exact hvalue.2 text htext

theorem exists_last (hvalue : value.IsWellFormed) :
    ∃ before last, value.elements = before ++ [last] := by
  have hne : value.elements ≠ [] := by
    cases value with
    | single old => exact List.cons_ne_nil old []
    | many texts =>
      rintro rfl
      cases hvalue.1
  exact ⟨_, _, (List.dropLast_append_getLast hne).symm⟩

theorem extendsPlainly (hvalue : value.IsWellFormed) (hline : IsTagText t.line) :
    value.ExtendsPlainly t := by
  have hpiece := hline.piece.ne_nil
  obtain ⟨before, last, helements⟩ := hvalue.exists_last
  have hlast : last ≠ [] := (hvalue.isTagText_of_mem_elements (by simp [helements])).ne_nil
  refine ⟨hpiece, before, last, helements, hlast, ?_⟩
  rw [extend_eq_extendPiece]
  cases hfresh : t.piece.fresh with
  | true =>
    rw [extendPiece_of_fresh value hfresh, helements]
    simp [elements]
  | false =>
    rw [elements_extendPiece_of_not_fresh value hfresh, helements, extendLast_concat,
      joinTexts_of_ne_nil hlast hpiece]
    rfl

/-- One more text makes many of the texts of a value. -/
theorem concat (hvalue : value.IsWellFormed) {text : Text} (htext : IsTagText text) :
    (many (value.elements ++ [text])).IsWellFormed := by
  obtain ⟨before, last, helements⟩ := hvalue.exists_last
  refine ⟨by simp [helements], ?_⟩
  intro other hother
  rcases List.mem_append.1 hother with hother | hother
  · exact hvalue.isTagText_of_mem_elements hother
  · exact List.mem_singleton.1 hother ▸ htext

/-- Of many texts the last one may become longer. -/
theorem extendLast {texts : List Text} (hmany : (many texts).IsWellFormed) {text : Text}
    (htext : IsTagText text) : (many (TagValue.extendLast text texts)).IsWellFormed := by
  obtain ⟨before, last, helements⟩ := hmany.exists_last
  obtain rfl : texts = before ++ [last] := helements
  obtain ⟨hlength, htexts⟩ := hmany
  rw [extendLast_concat]
  refine ⟨by simpa using hlength, ?_⟩
  intro other hother
  rcases List.mem_append.1 hother with hother | hother
  · exact htexts other (by simp [hother])
  · rw [List.mem_singleton.1 hother]
    exact (htexts last (by simp)).joinTexts htext

/-- A fresh line adds a text, and any other one makes the last text longer. -/
theorem extend (hvalue : value.IsWellFormed) (hline : IsTagText t.line) :
    (value.extend t.line t.token).IsWellFormed := by
  have hpiece := hline.piece
  rw [extend_eq_extendPiece]
  cases hfresh : t.piece.fresh with
  | true =>
    rw [extendPiece_of_fresh value hfresh]
    exact hvalue.concat hpiece
  | false =>
    cases value with
    | single old =>
      rw [extendPiece, if_neg (by simp [hfresh])]
      exact IsTagText.joinTexts hvalue hpiece
    | many olds =>
      rw [extendPiece, if_neg (by simp [hfresh])]
      exact hvalue.extendLast hpiece

end TagValue.IsWellFormed

/-! ## Keys -/

namespace Text

theorem isAlpha_iff {c : Char} : c.isAlpha = true ↔ c.isUpper = true ∨ c.isLower = true :=
  Bool.or_eq_true_iff

/-- A letter in lower case is a small letter. -/
theorem exists_lower_eq {c : Char} (hc : c.isAlpha = true) :
    ∃ d, lower [c] = [d] ∧ d.isLower = true := by
  rcases isAlpha_iff.1 hc with hupper | hlower
  · obtain ⟨n, hn, rfl⟩ := exists_capital_letter hupper
    obtain ⟨-, hletter, -, -, hsmall⟩ := lower_letters n hn
    exact ⟨_, hletter, hsmall⟩
  · obtain ⟨n, hn, rfl⟩ := exists_small_letter hlower
    obtain ⟨-, -, hletter, -, hsmall⟩ := lower_letters n hn
    exact ⟨_, hletter, hsmall⟩

end Text

theorem isTagKey_decapitalize {name : Text} (hne : name ≠ [])
    (hletters : ∀ c ∈ name, c.isAlpha = true) : IsTagKey (Text.decapitalize name) := by
  cases name with
  | nil => exact absurd rfl hne
  | cons c rest =>
    obtain ⟨d, hlower, hd⟩ := Text.exists_lower_eq (hletters c (by simp))
    rw [Text.decapitalize_cons, hlower]
    refine ⟨?_, by simpa using hd⟩
    simp only [List.cons_append, List.nil_append, List.all_cons, Bool.and_eq_true, List.all_eq_true]
    exact ⟨Text.isAlpha_iff.2 (.inr hd), fun e he => hletters e (by simp [he])⟩

/-! ## Documentation -/

namespace Documentation

theorem isWellFormed_empty : IsWellFormed ∅ where
  keys _ hkey := by cases hkey
  values _ he := by cases he

theorem IsWellFormed.insert {doc : Documentation} (hdoc : doc.IsWellFormed) {key : Text}
    (hkey : IsTagKey key) {value : TagValue} (hvalue : value.IsWellFormed) :
    IsWellFormed (OrderedMap.insert doc key value) where
  keys other hother := by
    rw [OrderedMap.keys_insert_eq_addKey, OrderedMap.addKey] at hother
    split at hother
    · exact hdoc.keys other hother
    · rcases List.mem_append.1 hother with hother | hother
      · exact hdoc.keys other hother
      · exact List.mem_singleton.1 hother ▸ hkey
  values e he := by
    rcases OrderedMap.mem_put he with rfl | he
    · exact hvalue
    · exact hdoc.values e he

theorem IsWellFormed.of_get? {doc : Documentation} (hdoc : doc.IsWellFormed) {key : Text}
    {value : TagValue} (hvalue : doc.get? key = some value) : value.IsWellFormed :=
  hdoc.values (key, value) (OrderedMap.mem_of_find hvalue)

theorem IsWellFormed.addLine {doc : Documentation} (hdoc : doc.IsWellFormed) {t : TagLine}
    (hkey : IsTagKey t.key) (hline : IsTagText t.line) :
    (addLine doc t.key t.line t.token).IsWellFormed := by
  unfold Documentation.addLine
  split
  · next value hvalue => exact hdoc.insert hkey ((hdoc.of_get? hvalue).extend hline)
  · split
    · exact hdoc
    · exact hdoc.insert hkey hline.piece

end Documentation

/-! ## Lines -/

def LineRole.tagLine? : LineRole → Option TagLine
  | .opens key token text | .continues key token text => some ⟨key, token, text⟩
  | .closes | .stray => none

namespace Marker

open Documentation

/-- A line that goes on with the open tag is not empty, and is merged under the token of the tag. -/
theorem of_role_continues {m : Marker} {line key token text : Text} {active : Option Text}
    (h : m.role line active = .continues key token text) :
    line ≠ [] ∧ text = line ∧ active = some token ∧
      key = Text.decapitalize (token.drop m.text.length) := by
  unfold role at h
  split at h
  · dsimp only at h
    split at h <;> cases h
  · split at h
    · cases h
    · split at h
      · cases h
      · split at h
        · cases h
        · cases h
        · cases h
          exact ⟨by simp, rfl, rfl, rfl⟩

end Marker

namespace Documentation.Progress

variable {m : Marker} {p : Progress} {line : Text}

/-- What has been read is well-formed, and the open tag has a name. -/
structure IsSound (m : Marker) (p : Progress) : Prop where
  documentation : p.documentation.IsWellFormed
  active : ∀ token ∈ p.active, ∃ name, name ≠ [] ∧ (∀ c ∈ name, c.isAlpha = true) ∧
    token = m.text ++ name

theorem isSound_initial (m : Marker) : IsSound m ⟨∅, none⟩ :=
  ⟨isWellFormed_empty, by simp⟩

/-- A line is merged under the key of a name, with a token that the name makes. -/
theorem IsSound.of_tagLine? (hp : p.IsSound m) {t : TagLine}
    (ht : (m.role line p.active).tagLine? = some t) :
    t.line = line ∧ line ≠ [] ∧ ∃ name, name ≠ [] ∧ (∀ c ∈ name, c.isAlpha = true) ∧
      t.key = Text.decapitalize name ∧ t.token = m.text ++ name := by
  cases hrole : m.role line p.active with
  | closes => simp [hrole, LineRole.tagLine?] at ht
  | stray => simp [hrole, LineRole.tagLine?] at ht
  | opens key token text =>
    obtain ⟨name, rest, hne, hletters, hline, rfl, rfl, rfl⟩ := m.exists_name_of_role_opens hrole
    rw [hrole] at ht
    obtain rfl := Option.some.inj ht
    exact ⟨rfl, by simp [hline, m.ne_nil], name, hne, hletters, rfl, rfl⟩
  | continues key token text =>
    obtain ⟨hne, rfl, hactive, rfl⟩ := m.of_role_continues hrole
    obtain ⟨name, hname, hletters, rfl⟩ := hp.active token hactive
    rw [hrole] at ht
    obtain rfl := Option.some.inj ht
    exact ⟨rfl, hne, name, hname, hletters, by simp, rfl⟩

/-- A line that is merged leaves its tag open. -/
theorem step_of_tagLine? {t : TagLine} (ht : (m.role line p.active).tagLine? = some t) :
    m.step p line = ⟨addLine p.documentation t.key t.line t.token, some t.token⟩ := by
  unfold Marker.step
  cases hrole : m.role line p.active with
  | closes => simp [hrole, LineRole.tagLine?] at ht
  | stray => simp [hrole, LineRole.tagLine?] at ht
  | opens key token text =>
    rw [hrole] at ht
    obtain rfl := Option.some.inj ht
    rfl
  | continues key token text =>
    obtain ⟨-, -, hactive, -⟩ := m.of_role_continues hrole
    rw [hrole] at ht
    obtain rfl := Option.some.inj ht
    dsimp only
    rw [hactive]

/-- Any other line adds nothing, and opens no tag. -/
theorem step_of_tagLine?_eq_none (ht : (m.role line p.active).tagLine? = none) :
    (m.step p line).documentation = p.documentation ∧
      ∀ token ∈ (m.step p line).active, token ∈ p.active := by
  unfold Marker.step
  cases hrole : m.role line p.active with
  | closes => simp
  | stray => simp
  | opens key token text => simp [hrole, LineRole.tagLine?] at ht
  | continues key token text => simp [hrole, LineRole.tagLine?] at ht

/-- Each line leaves what has been read well-formed. -/
theorem IsSound.step (hp : p.IsSound m) (htrimmed : Text.Trimmed line)
    (hline : Text.OneLine line) : (m.step p line).IsSound m := by
  cases ht : (m.role line p.active).tagLine? with
  | none =>
    obtain ⟨hdoc, hactive⟩ := step_of_tagLine?_eq_none ht
    refine ⟨?_, fun token htoken => hp.active token (hactive token htoken)⟩
    rw [hdoc]
    exact hp.documentation
  | some t =>
    obtain ⟨rfl, hne, name, hname, hletters, hkey, htoken⟩ := hp.of_tagLine? ht
    have htagKey : IsTagKey t.key := by
      rw [hkey]
      exact isTagKey_decapitalize hname hletters
    rw [step_of_tagLine? ht]
    refine ⟨hp.documentation.addLine htagKey ⟨hne, htrimmed, hline⟩, ?_⟩
    intro token hactive
    exact ⟨name, hname, hletters, (Option.some.inj hactive).symm.trans htoken⟩

theorem IsSound.foldl_step {lines : List Text} (hp : p.IsSound m)
    (hlines : ∀ line ∈ lines, Text.Trimmed line ∧ Text.OneLine line) :
    (lines.foldl m.step p).IsSound m := by
  induction lines generalizing p with
  | nil => exact hp
  | cons line rest ih =>
    obtain ⟨htrimmed, hline⟩ := hlines line (by simp)
    exact ih (hp.step htrimmed hline) fun l hl => hlines l (by simp [hl])

end Documentation.Progress

/-! ## Texts as they are read -/

namespace Documentation

/-- Undecorating a line puts nothing in. -/
theorem mem_of_mem_undecorate {t : Text} {c : Char} (hc : c ∈ undecorate t) : c ∈ t := by
  obtain ⟨front, back, ht, -, -⟩ := exists_margins t
  rw [ht]
  simp [hc]

theorem oneLine_of_mem_undecoratedLines {raw : Option Text} {line : Text}
    (h : line ∈ undecoratedLines raw) : Text.OneLine line := by
  unfold undecoratedLines at h
  split at h
  · cases h
  · cases h
  · obtain ⟨source, hsource, rfl⟩ := List.mem_map.1 h
    exact fun c hc => Text.oneLine_of_mem_lines hsource c (mem_of_mem_undecorate hc)

end Documentation

namespace Marker

open Documentation

/-- Documentation is well-formed whenever a line is read and at the end, and no line meets a value
or adds a text that is empty. -/
theorem isWellFormed_parse (m : Marker) (raw : Option Text) :
    (m.parse raw).IsWellFormed ∧
      ∀ before line after, undecoratedLines raw = before ++ line :: after →
        (before.foldl m.step ⟨∅, none⟩).documentation.IsWellFormed ∧
          ∀ t value,
            (m.role line (before.foldl m.step ⟨∅, none⟩).active).tagLine? = some t →
              (before.foldl m.step ⟨∅, none⟩).documentation.get? t.key = some value →
                value.ExtendsPlainly t := by
  have hlines : ∀ line ∈ undecoratedLines raw, Text.Trimmed line ∧ Text.OneLine line :=
    fun line hline =>
      ⟨trimmed_of_mem_undecoratedLines hline, oneLine_of_mem_undecoratedLines hline⟩
  have hsound : ∀ before, before ⊆ undecoratedLines raw →
      (before.foldl m.step ⟨∅, none⟩).IsSound m := fun before hbefore =>
    (Progress.isSound_initial m).foldl_step fun line hline => hlines line (hbefore hline)
  refine ⟨(hsound _ (List.Subset.refl _)).documentation, ?_⟩
  intro before line after hsplit
  have hp := hsound before (by simp [hsplit])
  refine ⟨hp.documentation, ?_⟩
  intro t value ht hvalue
  obtain ⟨rfl, hne, -⟩ := hp.of_tagLine? ht
  obtain ⟨htrimmed, hone⟩ := hlines t.line (by simp [hsplit])
  exact (hp.documentation.of_get? hvalue).extendsPlainly ⟨hne, htrimmed, hone⟩

/-- A repeated tag whose second text goes on in a bare tag line. -/
def repeatedTag : Text := "@apiNote \t one\r\ntwo *\r@apiNote three\n@apiNote".toList

theorem isWellFormed_parse_repeatedTag :
    undecoratedLines (some repeatedTag) =
        ["@apiNote \t one".toList, "two".toList, "@apiNote three".toList] ++
          ["@apiNote".toList] ∧
      (standard.parse (some repeatedTag)).IsWellFormed ∧
      TagValue.ExtendsPlainly (.many ["one two".toList, "three".toList])
        ⟨"note".toList, "@apiNote".toList, "@apiNote".toList⟩ := by
  have hlines : undecoratedLines (some repeatedTag) =
      ["@apiNote \t one".toList, "two".toList, "@apiNote three".toList] ++
        "@apiNote".toList :: [] := by decide
  obtain ⟨hparse, hrun⟩ := isWellFormed_parse standard (some repeatedTag)
  exact ⟨hlines, hparse, (hrun _ _ _ hlines).2 _ _ (by decide) (by decide)⟩

end Marker
end VerbDoc
