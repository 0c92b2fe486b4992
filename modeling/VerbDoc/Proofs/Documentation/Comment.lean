import VerbDoc.Proofs.Documentation.Endings
import VerbDoc.Proofs.Documentation.Rendering

/-!
# Comment blocks

Documentation may be framed as a comment: a first line that opens it, asterisks between white space
in front of every line of the body, and a last line that closes it. The frame does not count, as
long as no line of the body looks as if it had asterisks of its own in front. Main statement: a
comment block has the documentation of its body.
-/
namespace VerbDoc

namespace Documentation

open Text

/-- What stands around a line of a comment: asterisks with white space on both sides in front of
it, and white space behind it. -/
structure LineFrame where
  indent : Text
  stars : Text
  gap : Text
  trailing : Text
  stars_ne_nil : stars ≠ []
  stars_all : stars.all isStar = true
  gap_ne_nil : gap ≠ []
  blank_all : (indent ++ gap ++ trailing).all (fun c => isBlank c && !isLineEnd c) = true

namespace LineFrame

def around (f : LineFrame) (line : Text) : Text :=
  f.indent ++ f.stars ++ f.gap ++ line ++ f.trailing

variable (f : LineFrame)

theorem stars_eq : ∀ c ∈ f.stars, c = '*' := by
  simpa [isStar] using f.stars_all

theorem blank : ∀ c ∈ f.indent ++ f.gap ++ f.trailing, isBlank c = true ∧ isLineEnd c = false := by
  intro c hc
  simpa using List.all_eq_true.1 f.blank_all c hc

theorem blank_indent : Blank f.indent := fun c hc => (f.blank c (by simp [hc])).1

theorem blank_gap : Blank f.gap := fun c hc => (f.blank c (by simp [hc])).1

theorem blank_trailing : Blank f.trailing := fun c hc => (f.blank c (by simp [hc])).1

theorem isBlank_of_mem_stars {c : Char} (hc : c ∈ f.stars) : isBlank c = false := by
  rw [f.stars_eq c hc]
  decide

theorem trimmed_stars : Trimmed f.stars :=
  ⟨fun _ hc => f.isBlank_of_mem_stars (List.mem_of_mem_head? hc),
    fun _ hc => f.isBlank_of_mem_stars (List.mem_of_mem_getLast? hc)⟩

theorem oneLine_around {line : Text} (hline : OneLine line) : OneLine (f.around line) := by
  intro c hc
  simp only [around, List.mem_append] at hc
  rcases hc with (((hc | hc) | hc) | hc) | hc
  · exact (f.blank c (by simp [hc])).2
  · rw [f.stars_eq c hc]
    decide
  · exact (f.blank c (by simp [hc])).2
  · exact hline c hc
  · exact (f.blank c (by simp [hc])).2

/-- Nothing is left of a blank line in a frame. -/
theorem undecorate_around_of_blank {line : Text} (hblank : Blank line) :
    undecorate (f.around line) = [] := by
  have htrim : trim (f.around line) = f.stars := by
    rw [around, List.append_assoc, List.append_assoc]
    exact trim_append_append f.blank_indent f.trimmed_stars
      (blank_append f.blank_gap (blank_append hblank f.blank_trailing))
  have hdrop := @dropLeadingStars_append f.stars [] f.stars_eq (by simp)
  rw [List.append_nil] at hdrop
  rw [undecorate, htrim, hdrop]
  rfl

/-- Trimming a line in its frame leaves the asterisks, white space and the trimmed line. -/
theorem exists_trim_around {line : Text} (hne : trim line ≠ []) :
    ∃ gap, gap ≠ [] ∧ Blank gap ∧ trim (f.around line) = f.stars ++ (gap ++ trim line) := by
  obtain ⟨lead, tail, hsplit, hlead, htail⟩ := exists_trim_append line
  refine ⟨f.gap ++ lead, by simp [f.gap_ne_nil], blank_append f.blank_gap hlead, ?_⟩
  have hframed : f.around line =
      f.indent ++ (f.stars ++ (f.gap ++ lead ++ trim line)) ++ (tail ++ f.trailing) := by
    rw [around]
    conv => lhs; rw [hsplit]
    simp
  have htrimmed : Trimmed (f.stars ++ (f.gap ++ lead ++ trim line)) := by
    constructor
    · intro c hc
      rw [List.head?_append_of_ne_nil _ f.stars_ne_nil] at hc
      exact f.trimmed_stars.1 c hc
    · intro c hc
      rw [← List.append_assoc, List.getLast?_append_of_ne_nil _ hne] at hc
      exact (trimmed_trim line).2 c hc
  rw [hframed]
  exact trim_append_append f.blank_indent htrimmed (blank_append htail f.blank_trailing)

/-- A frame goes with the asterisks in it, and nothing else does. -/
theorem undecorate_around {line : Text} (hline : ¬StartsWithGutter (trim line)) :
    undecorate (f.around line) = undecorate line := by
  rw [← undecorate_trim line]
  by_cases hnil : trim line = []
  · rw [undecorate_around_of_blank f (trim_eq_nil_iff.1 hnil), hnil]
    rfl
  · obtain ⟨gap, hgap, hblank, htrim⟩ := f.exists_trim_around hnil
    have hhead : ∀ c ∈ (gap ++ trim line).head?, isBlank c = true ∨ c = '/' := by
      intro c hc
      rw [List.head?_append_of_ne_nil _ hgap] at hc
      exact .inl (hblank c (List.mem_of_mem_head? hc))
    -- A line of asterisks alone would start with a gutter.
    obtain ⟨c, hc, hstar⟩ : ∃ c ∈ trim line, c ≠ '*' := by
      by_contra hnone
      have hall : ∀ c ∈ trim line, c = '*' := fun c hc => by_contra fun hne => hnone ⟨c, hc, hne⟩
      exact hline ⟨trim line, [], hnil, hall, by simp, by simp⟩
    rw [undecorate, htrim, dropLeadingStars_append f.stars_eq hhead,
      dropTrailingStars_append hc hstar, trim_append_of_blank hblank, undecorate, trim_trim,
      dropLeadingStars_eq_self hline]

end LineFrame

/-- The lines of a comment block, whose body is made of lines in their frames. -/
def commentLines (body : List (LineFrame × Text)) : List Text :=
  "/**".toList :: (body.map fun e => e.1.around e.2) ++ [" */".toList]

end Documentation

namespace Marker

open Documentation

/-- The first and the last line of a comment open no block and close any. -/
theorem blocks_commentLines (m : Marker) (body : List (LineFrame × Text)) :
    m.blocks ((commentLines body).map undecorate) =
      m.blocks ((body.map fun e => e.1.around e.2).map undecorate) := by
  have hopens : m.splitName? (undecorate "/**".toList) = none := splitName?_eq_none (by decide)
  have hcloses : m.splitName? ['/'] = none := splitName?_eq_none (by decide)
  have hends : m.endsBlock ['/'] = true := by simp [endsBlock, LineRole.isForeign]
  have hlast : undecorate " */".toList = ['/'] := by decide
  rw [commentLines, List.cons_append, List.map_cons, List.map_append, List.map_singleton, hlast,
    blocks_cons_of_none hopens, blocks_append hends, blocks_cons_of_none hcloses, blocks,
    List.append_nil]

/-- A comment block has the documentation of its body. -/
theorem parse_commentLines (m : Marker) (ending ending' : Text.LineEnding)
    {body : List (LineFrame × Text)}
    (hbody : ∀ e ∈ body, Text.OneLine e.2 ∧ ¬StartsWithGutter (Text.trim e.2)) :
    m.parse (some (Text.joinWith ending.text (commentLines body))) =
      m.parse (some (Text.joinWith ending'.text (body.map Prod.snd))) := by
  have hframed : ∀ line ∈ commentLines body, Text.OneLine line := by
    intro line hline
    rcases List.mem_append.1 hline with hline | hline
    · rcases List.mem_cons.1 hline with rfl | hline
      · decide
      · obtain ⟨e, he, rfl⟩ := List.mem_map.1 hline
        exact e.1.oneLine_around (hbody e he).1
    · rw [List.mem_singleton.1 hline]
      decide
  have hplain : ∀ line ∈ body.map Prod.snd, Text.OneLine line := by
    intro line hline
    obtain ⟨e, he, rfl⟩ := List.mem_map.1 hline
    exact (hbody e he).1
  have hlines : (body.map fun e => e.1.around e.2).map undecorate =
      (body.map Prod.snd).map undecorate := by
    rw [List.map_map, List.map_map]
    apply List.map_congr_left
    intro e he
    rw [Function.comp_apply, Function.comp_apply, e.1.undecorate_around (hbody e he).2]
  rw [parse_joinWith m ending hframed, parse_joinWith m ending' hplain, blocks_commentLines, hlines]

/-- An indented frame with a run of asterisks and a wide gap. -/
def wideFrame : LineFrame where
  indent := "  ".toList
  stars := "**".toList
  gap := "\u3000 ".toList
  trailing := "\t".toList
  stars_ne_nil := by decide
  stars_all := by decide
  gap_ne_nil := by decide
  blank_all := by decide

/-- A tag with emphasis, an asterisk at its end and a line that goes on with it. -/
def emphasizedBody : List (LineFrame × Text) :=
  [(wideFrame, "@apiNote *not* here *".toList), (wideFrame, " **nor** /there/* ".toList),
    (wideFrame, [])]

theorem parse_commentLines_emphasized :
    (∀ e ∈ emphasizedBody, Text.OneLine e.2 ∧ ¬StartsWithGutter (Text.trim e.2)) ∧
      standard.parse (some (Text.joinWith "\r\n".toList (commentLines emphasizedBody))) =
        standard.parse (some (Text.joinWith ['\n'] (emphasizedBody.map Prod.snd))) := by
  have hbody : ∀ e ∈ emphasizedBody, Text.OneLine e.2 ∧ ¬StartsWithGutter (Text.trim e.2) := by
    decide
  exact ⟨hbody, parse_commentLines standard .crLf .lf hbody⟩

end Marker
end VerbDoc
