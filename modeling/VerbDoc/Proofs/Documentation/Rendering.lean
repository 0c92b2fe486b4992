import VerbDoc.Proofs.Documentation.Groups
import VerbDoc.Proofs.Documentation.Gutter
import VerbDoc.Proofs.Text.Layout

/-!
# Writing documentation as a text

Documentation is written with a tag line for each text of each key, in order. A text may be cut
into pieces at its spaces; the first piece stands on the tag line and each further one on a line
of its own. Not every text can be written: a piece has to survive as a line, and a further piece
may not look like a tag, a foreign line or a gutter. Main statement: the lines that are written are
the undecorated lines of the text.
-/
namespace VerbDoc

/-- A text that is cut into pieces, of which there is at least one. -/
structure CutText where
  first : Text
  more : List Text
  deriving DecidableEq, Repr

/-- The value of a tag with its texts cut into pieces. -/
inductive CutValue where
  | single (text : CutText)
  | many (texts : List CutText)
  deriving DecidableEq, Repr

namespace CutText

def pieces (c : CutText) : List Text := c.first :: c.more

/-- The text that was cut: its pieces with a space between neighbours. -/
def text (c : CutText) : Text := TagValue.joined c.pieces

end CutText

namespace CutValue

def texts : CutValue → List CutText
  | .single text => [text]
  | .many texts => texts

def value : CutValue → TagValue
  | .single text => .single text.text
  | .many texts => .many (texts.map CutText.text)

end CutValue

/-- The text with its first character in upper case, which is an ASCII letter. -/
def Text.capitalize : Text → Text
  | [] => []
  | c :: rest => c.toUpper :: rest

namespace Marker

def writtenLines (m : Marker) (key : Text) (c : CutText) : List Text :=
  (m.text ++ Text.capitalize key ++ ' ' :: c.first) :: c.more

def renderLines (m : Marker) (cut : OrderedMap Text CutValue) : List Text :=
  cut.entries.flatMap fun e => e.2.texts.flatMap (m.writtenLines e.1)

def render (m : Marker) (ending : Text.LineEnding) (cut : OrderedMap Text CutValue) : Text :=
  Text.joinWith ending.text (m.renderLines cut)

/-! ## What can be written -/

/-- Tag lines with the marker are lines, and keep the marker when they are undecorated. -/
structure IsWritable (m : Marker) : Prop where
  oneLine : Text.OneLine m.text
  head_not_blank : m.text.head?.any Text.isBlank = false
  head_not_star : m.text.head? ≠ some '*'

end Marker

/-- A key that a tag can have: a word of ASCII letters, the first of which is in lower case. -/
structure IsTagKey (key : Text) : Prop where
  letters : key.all Char.isAlpha = true
  head_lower : key.head?.any Char.isLower = true

/-- A piece that survives at the end of a line. -/
structure IsPiece (t : Text) : Prop where
  ne_nil : t ≠ []
  trimmed : Text.Trimmed t
  oneLine : Text.OneLine t
  no_gutter : ¬Documentation.EndsWithGutter t

/-- A piece that survives as a line of its own and goes on with the open tag. -/
structure IsFurtherPiece (m : Marker) (t : Text) : Prop extends IsPiece t where
  no_marker : ¬m.text <+: t
  not_foreign : t.head? ≠ some '@' ∧ t.head? ≠ some '/'
  no_leading_gutter : ¬Documentation.BeginsWithGutter t

/-- The pieces of a text can be written. -/
structure CutText.IsWritable (m : Marker) (c : CutText) : Prop where
  first : IsPiece c.first
  more : ∀ t ∈ c.more, IsFurtherPiece m t

/-- The texts of a value can be written, and there are several where there may be several. -/
def CutValue.IsWritable (m : Marker) : CutValue → Prop
  | .single text => text.IsWritable m
  | .many texts => 2 ≤ texts.length ∧ ∀ c ∈ texts, c.IsWritable m

/-- Documentation can be written: its keys are tags, and so can its values. -/
structure IsWritableCut (m : Marker) (cut : OrderedMap Text CutValue) : Prop where
  keys : ∀ key ∈ cut.keys, IsTagKey key
  values : ∀ e ∈ cut.entries, e.2.IsWritable m

/-! ## Deciding what can be written -/

instance (t : Text) : Decidable (Text.Trimmed t) :=
  decidable_of_iff (t.head?.any Text.isBlank = false ∧ t.getLast?.any Text.isBlank = false) (by
    rw [Option.any_eq_false, Option.any_eq_false]
    simp [Text.Trimmed])

instance (t : Text) : Decidable (Text.OneLine t) :=
  decidable_of_iff (t.any Text.isLineEnd = false) (by
    rw [List.any_eq_false]
    simp [Text.OneLine])

instance (m : Marker) : Decidable m.IsWritable :=
  decidable_of_iff (_ ∧ _ ∧ _) ⟨fun ⟨h₁, h₂, h₃⟩ => ⟨h₁, h₂, h₃⟩, fun ⟨h₁, h₂, h₃⟩ => ⟨h₁, h₂, h₃⟩⟩

instance (key : Text) : Decidable (IsTagKey key) :=
  decidable_of_iff (_ ∧ _) ⟨fun ⟨h₁, h₂⟩ => ⟨h₁, h₂⟩, fun ⟨h₁, h₂⟩ => ⟨h₁, h₂⟩⟩

instance (t : Text) : Decidable (IsPiece t) :=
  decidable_of_iff (_ ∧ _ ∧ _ ∧ _)
    ⟨fun ⟨h₁, h₂, h₃, h₄⟩ => ⟨h₁, h₂, h₃, h₄⟩, fun ⟨h₁, h₂, h₃, h₄⟩ => ⟨h₁, h₂, h₃, h₄⟩⟩

instance (m : Marker) (t : Text) : Decidable (IsFurtherPiece m t) :=
  decidable_of_iff (_ ∧ _ ∧ _ ∧ _)
    ⟨fun ⟨h₁, h₂, h₃, h₄⟩ => ⟨h₁, h₂, h₃, h₄⟩, fun ⟨h₁, h₂, h₃, h₄⟩ => ⟨h₁, h₂, h₃, h₄⟩⟩

instance (m : Marker) (c : CutText) : Decidable (c.IsWritable m) :=
  decidable_of_iff (_ ∧ _) ⟨fun ⟨h₁, h₂⟩ => ⟨h₁, h₂⟩, fun ⟨h₁, h₂⟩ => ⟨h₁, h₂⟩⟩

instance (m : Marker) : (value : CutValue) → Decidable (value.IsWritable m)
  | .single text => inferInstanceAs (Decidable (text.IsWritable m))
  | .many texts => inferInstanceAs (Decidable (2 ≤ texts.length ∧ ∀ c ∈ texts, c.IsWritable m))

instance (m : Marker) (cut : OrderedMap Text CutValue) : Decidable (IsWritableCut m cut) :=
  decidable_of_iff (_ ∧ _) ⟨fun ⟨h₁, h₂⟩ => ⟨h₁, h₂⟩, fun ⟨h₁, h₂⟩ => ⟨h₁, h₂⟩⟩

/-! ## Keys -/

namespace Text

/-- Each small letter and its capital one. -/
theorem lower_letters : ∀ n < 26, (Char.ofNat (97 + n)).toUpper = Char.ofNat (65 + n) ∧
    lower [Char.ofNat (65 + n)] = [Char.ofNat (97 + n)] ∧
    lower [Char.ofNat (97 + n)] = [Char.ofNat (97 + n)] ∧
    (Char.ofNat (65 + n)).isAlpha = true ∧ (Char.ofNat (97 + n)).isLower = true := by
  decide +kernel

theorem exists_small_letter {c : Char} (h : c.isLower = true) :
    ∃ n < 26, c = Char.ofNat (97 + n) := by
  obtain ⟨hlow, hhigh⟩ := Bool.and_eq_true_iff.1 h
  have hrange : 97 ≤ c.toNat ∧ c.toNat ≤ 122 := ⟨of_decide_eq_true hlow, of_decide_eq_true hhigh⟩
  refine ⟨c.toNat - 97, by omega, ?_⟩
  rw [Nat.add_sub_cancel' hrange.1, Char.ofNat_toNat]

theorem exists_capital_letter {c : Char} (h : c.isUpper = true) :
    ∃ n < 26, c = Char.ofNat (65 + n) := by
  have hrange : 65 ≤ c.toNat ∧ c.toNat ≤ 90 := of_decide_eq_true h
  refine ⟨c.toNat - 65, by omega, ?_⟩
  rw [Nat.add_sub_cancel' hrange.1, Char.ofNat_toNat]

theorem lower_toUpper {c : Char} (h : c.isLower = true) :
    lower [c.toUpper] = [c] ∧ c.toUpper.isAlpha = true := by
  obtain ⟨n, hn, rfl⟩ := exists_small_letter h
  obtain ⟨hupper, hlower, -, halpha, -⟩ := lower_letters n hn
  rw [hupper]
  exact ⟨hlower, halpha⟩

end Text

namespace IsTagKey

variable {key : Text}

theorem decapitalize_capitalize (h : IsTagKey key) :
    Text.decapitalize (Text.capitalize key) = key := by
  cases key with
  | nil => cases h.head_lower
  | cons c rest =>
    obtain ⟨hlower, -⟩ := Text.lower_toUpper (h.head_lower)
    rw [Text.capitalize, Text.decapitalize_cons, hlower]
    rfl

theorem capitalize_ne_nil (h : IsTagKey key) : Text.capitalize key ≠ [] := by
  cases key with
  | nil => cases h.head_lower
  | cons c rest => exact List.cons_ne_nil _ _

theorem isAlpha_of_mem_capitalize (h : IsTagKey key) {c : Char}
    (hc : c ∈ Text.capitalize key) : c.isAlpha = true := by
  cases key with
  | nil => cases h.head_lower
  | cons first rest =>
    rcases List.mem_cons.1 hc with rfl | hc
    · exact (Text.lower_toUpper (h.head_lower)).2
    · exact List.all_eq_true.1 h.letters c (by simp [hc])

theorem isLineEnd_of_mem_capitalize (h : IsTagKey key) {c : Char}
    (hc : c ∈ Text.capitalize key) : Text.isLineEnd c = false := by
  have halpha := h.isAlpha_of_mem_capitalize hc
  cases hend : Text.isLineEnd c with
  | false => rfl
  | true =>
    simp only [Text.isLineEnd, Bool.or_eq_true, beq_iff_eq] at hend
    rcases hend with rfl | rfl <;> cases halpha

end IsTagKey

/-! ## Written lines -/

namespace Documentation

/-- Lines that need no undecorating are read as they were written. -/
theorem undecoratedLines_joinWith (ending : Text.LineEnding) {parts : List Text}
    (hparts : ∀ part ∈ parts, IsPiece part ∧ ¬BeginsWithGutter part) :
    undecoratedLines (some (Text.joinWith ending.text parts)) = parts := by
  cases parts with
  | nil => rfl
  | cons first rest =>
    obtain ⟨hfirst, -⟩ := hparts first (by simp)
    have hlines : Text.lines (Text.joinWith ending.text (first :: rest)) = first :: rest :=
      Text.lines_joinWith ending (by simp) fun part hpart => (hparts part hpart).1.oneLine
    have hundecorate : (first :: rest).map undecorate = first :: rest := by
      refine (List.map_congr_left ?_).trans (List.map_id _)
      intro part hpart
      obtain ⟨hpiece, hbegin⟩ := hparts part hpart
      exact undecorate_eq_self hpiece.trimmed hbegin hpiece.no_gutter
    have hne : Text.joinWith ending.text (first :: rest) ≠ [] := by
      intro hnil
      apply hfirst.ne_nil
      rw [← List.head?_eq_none_iff, ← Text.head?_joinWith hfirst.ne_nil rest, hnil, List.head?_nil]
    unfold undecoratedLines
    split
    · next hnone => cases hnone
    · next hnil => exact absurd (Option.some.inj hnil) hne
    · next raw hraw => rw [← Option.some.inj hraw, hlines, hundecorate]

end Documentation

namespace Marker

variable {m : Marker} {key first : Text}

theorem head?_opening (m : Marker) (key first : Text) :
    (m.text ++ Text.capitalize key ++ ' ' :: first).head? = m.text.head? := by
  have hne := m.ne_nil
  cases htext : m.text with
  | nil => exact absurd htext hne
  | cons c rest => rfl

theorem isPiece_opening (hm : m.IsWritable) (hkey : IsTagKey key) (hfirst : IsPiece first) :
    IsPiece (m.text ++ Text.capitalize key ++ ' ' :: first) where
  ne_nil := by simp
  trimmed := by
    constructor
    · intro c hc
      have hhead := hm.head_not_blank
      rw [head?_opening] at hc
      rwa [hc] at hhead
    · intro c hc
      apply hfirst.trimmed.2
      have hlast := List.getLast?_eq_some_getLast hfirst.ne_nil
      rw [List.getLast?_append, List.getLast?_cons, hlast] at hc
      exact hlast.trans hc
  oneLine := by
    intro c hc
    rcases List.mem_append.1 hc with hc | hc
    · rcases List.mem_append.1 hc with hc | hc
      · exact hm.oneLine c hc
      · exact hkey.isLineEnd_of_mem_capitalize hc
    · rcases List.mem_cons.1 hc with rfl | hc
      · rfl
      · exact hfirst.oneLine c hc
  no_gutter := by
    rw [show m.text ++ Text.capitalize key ++ ' ' :: first =
      (m.text ++ Text.capitalize key ++ [' ']) ++ first by simp]
    exact fun h => hfirst.no_gutter (Documentation.endsWithGutter_of_append hfirst.ne_nil h)

theorem isPiece_of_mem_writtenLines (hm : m.IsWritable) (hkey : IsTagKey key) {c : CutText}
    (hc : c.IsWritable m) {line : Text} (hline : line ∈ m.writtenLines key c) :
    IsPiece line ∧ ¬Documentation.BeginsWithGutter line := by
  rcases List.mem_cons.1 hline with rfl | hline
  · refine ⟨isPiece_opening hm hkey hc.first, ?_⟩
    rw [Documentation.beginsWithGutter_iff, head?_opening]
    exact fun h => hm.head_not_star h.1
  · exact ⟨(hc.more line hline).toIsPiece, (hc.more line hline).no_leading_gutter⟩

end Marker
end VerbDoc
