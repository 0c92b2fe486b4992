import VerbDoc.Proofs.Documentation.Gutter
import VerbDoc.Proofs.Text.Trimming

/-!
# What undecorating takes away

A line loses the white space at its ends, then the gutter at its start, then the gutter at the end
of what is left, and at last the white space inside. All else stays, and stays together: asterisks
that touch the text are no gutter. Main statement: undecorating a line takes its gutters and the
white space around them, and nothing else.
-/
namespace VerbDoc.Documentation

open Text

/-- The text ends with asterisks that white space comes before. -/
def FinishesWithGutter (t : Text) : Prop :=
  ∃ before c stars, stars ≠ [] ∧ (∀ s ∈ stars, s = '*') ∧ t = before ++ c :: stars ∧
    isBlank c = true

/-- What is left of a text without the gutter at its start. White space, a slash or nothing comes
behind a gutter, so that it is all the asterisks that the text starts with. -/
inductive CutsFront : Text → Text → Prop where
  | gutter {stars rest : Text} (hne : stars ≠ []) (hstars : ∀ s ∈ stars, s = '*')
      (hrest : ∀ c ∈ rest.head?, isBlank c = true ∨ c = '/') : CutsFront (stars ++ rest) rest
  | whole {t : Text} (hplain : ¬StartsWithGutter t) : CutsFront t t

/-- What is left of a text without the gutter at its end, which is all the asterisks behind white
space. -/
inductive CutsBack : Text → Text → Prop where
  | gutter {before stars : Text} {c : Char} (hne : stars ≠ []) (hstars : ∀ s ∈ stars, s = '*')
      (hblank : isBlank c = true) : CutsBack (before ++ c :: stars) (before ++ [c])
  | whole {t : Text} (hplain : ¬FinishesWithGutter t) : CutsBack t t

/-- White space, with no more than one run of asterisks in it. -/
def IsMargin (t : Text) : Prop :=
  ∃ lead stars gap, t = lead ++ stars ++ gap ∧ Blank lead ∧ (∀ s ∈ stars, s = '*') ∧ Blank gap

variable {t rest core line : Text}

/-! ## The gutter at the start -/

theorem cutsFront_iff : CutsFront t rest ↔ dropLeadingStars t = rest := by
  constructor
  · intro h
    cases h with
    | gutter hne hstars hrest => exact dropLeadingStars_append hstars hrest
    | whole hplain => exact dropLeadingStars_eq_self hplain
  · rintro rfl
    by_cases hstart : StartsWithGutter t
    · obtain ⟨stars, rest, hne, hstars, rfl, hrest⟩ := hstart
      rw [dropLeadingStars_append hstars hrest]
      exact .gutter hne hstars hrest
    · rw [dropLeadingStars_eq_self hstart]
      exact .whole hstart

namespace CutsFront

theorem not_startsWithGutter (h : CutsFront t rest) : ¬StartsWithGutter rest := by
  cases h with
  | gutter hne hstars hrest =>
    exact fun hstart => head?_ne_star hrest (startsWithGutter_iff.1 hstart).1
  | whole hplain => exact hplain

theorem exists_stars (h : CutsFront t rest) :
    ∃ stars, (∀ s ∈ stars, s = '*') ∧ t = stars ++ rest := by
  cases h with
  | gutter hne hstars hrest => exact ⟨_, hstars, rfl⟩
  | whole hplain => exact ⟨[], by simp, rfl⟩

theorem whole_or_shorter (h : CutsFront t rest) :
    (¬StartsWithGutter t ∧ rest = t) ∨ rest.length < t.length := by
  cases h with
  | gutter hne hstars hrest => exact .inr (by simp [List.length_pos_iff.2 hne])
  | whole hplain => exact .inl ⟨hplain, rfl⟩

end CutsFront

/-! ## The gutter at the end -/

/-- Asterisks that are a text by themselves are a gutter at its start already. -/
theorem endsWithGutter_iff_finishes (hstart : ¬StartsWithGutter t) :
    EndsWithGutter t ↔ FinishesWithGutter t := by
  constructor
  · rintro ⟨before, stars, hne, hstars, rfl, hbefore⟩
    rcases List.eq_nil_or_concat before with rfl | ⟨more, c, rfl⟩
    · exact absurd ⟨stars, [], hne, hstars, by simp, by simp⟩ hstart
    · exact ⟨more, c, stars, hne, hstars, by simp, hbefore c (by simp)⟩
  · rintro ⟨before, c, stars, hne, hstars, rfl, hblank⟩
    exact ⟨before ++ [c], stars, hne, hstars, by simp, by simp [hblank]⟩

theorem dropTrailingStars_append_stars {before stars : Text} {c : Char}
    (hstars : ∀ s ∈ stars, s = '*') (hblank : isBlank c = true) :
    dropTrailingStars (before ++ c :: stars) = before ++ [c] := by
  have hc : (c :: before.reverse).head? ≠ some '*' := head?_ne_star (by simp [hblank])
  obtain ⟨-, hdrop⟩ := takeWhile_dropWhile_stars (fun s hs => hstars s (List.mem_reverse.1 hs)) hc
  have hreverse : (before ++ c :: stars).reverse = stars.reverse ++ c :: before.reverse := by simp
  unfold dropTrailingStars
  rw [hreverse, hdrop]
  simp [hblank]

theorem cutsBack_iff (hstart : ¬StartsWithGutter t) :
    CutsBack t core ↔ dropTrailingStars t = core := by
  constructor
  · intro h
    cases h with
    | gutter hne hstars hblank => exact dropTrailingStars_append_stars hstars hblank
    | whole hplain =>
      exact dropTrailingStars_eq_self (mt (endsWithGutter_iff_finishes hstart).1 hplain)
  · rintro rfl
    by_cases hend : FinishesWithGutter t
    · obtain ⟨before, c, stars, hne, hstars, rfl, hblank⟩ := hend
      rw [dropTrailingStars_append_stars hstars hblank]
      exact .gutter hne hstars hblank
    · rw [dropTrailingStars_eq_self (mt (endsWithGutter_iff_finishes hstart).1 hend)]
      exact .whole hend

namespace CutsBack

theorem exists_stars (h : CutsBack t core) :
    ∃ stars, (∀ s ∈ stars, s = '*') ∧ t = core ++ stars := by
  cases h with
  | gutter hne hstars hblank => exact ⟨_, hstars, by simp⟩
  | whole hplain => exact ⟨[], by simp, by simp⟩

theorem whole_or_shorter (h : CutsBack t core) :
    (¬FinishesWithGutter t ∧ core = t) ∨ core.length < t.length := by
  cases h with
  | gutter hne hstars hblank => exact .inr (by simp [List.length_pos_iff.2 hne])
  | whole hplain => exact .inl ⟨hplain, rfl⟩

end CutsBack

/-! ## The line -/

theorem undecorate_eq_iff {kept : Text} :
    undecorate line = kept ↔
      ∃ rest core, CutsFront (trim line) rest ∧ CutsBack rest core ∧ kept = trim core := by
  constructor
  · rintro rfl
    have hfront : CutsFront (trim line) (dropLeadingStars (trim line)) := cutsFront_iff.2 rfl
    exact ⟨_, _, hfront, (cutsBack_iff hfront.not_startsWithGutter).2 rfl, rfl⟩
  · rintro ⟨rest, core, hfront, hback, rfl⟩
    obtain rfl := (cutsBack_iff hfront.not_startsWithGutter).1 hback
    obtain rfl := cutsFront_iff.1 hfront
    rfl

/-- Only a line without a gutter keeps all but the white space at its ends. -/
theorem undecorate_eq_trim_iff :
    undecorate line = trim line ↔
      ¬StartsWithGutter (trim line) ∧ ¬FinishesWithGutter (trim line) := by
  constructor
  · intro hwhole
    obtain ⟨rest, core, hfront, hback, hkept⟩ := undecorate_eq_iff.1 hwhole
    have hlength := congrArg List.length hkept
    have htrim := length_trim_le core
    -- A gutter that goes makes the text shorter, and nothing makes it longer again.
    rcases hfront.whole_or_shorter with ⟨hstart, rfl⟩ | hshorter
    · rcases hback.whole_or_shorter with ⟨hend, -⟩ | hshorter
      · exact ⟨hstart, hend⟩
      · omega
    · rcases hback.whole_or_shorter with ⟨-, rfl⟩ | hshorter <;> omega
  · rintro ⟨hstart, hend⟩
    exact undecorate_eq_iff.2 ⟨_, _, .whole hstart, .whole hend, (trim_trim line).symm⟩

/-- What is left of a line is a part of it, between two margins. -/
theorem exists_margins (line : Text) :
    ∃ front back, line = front ++ undecorate line ++ back ∧ IsMargin front ∧ IsMargin back := by
  obtain ⟨rest, core, hfront, hback, hkept⟩ := (@undecorate_eq_iff line _).1 rfl
  obtain ⟨lead, tail, hline, hlead, htail⟩ := exists_trim_append line
  obtain ⟨stars, hstars, htrim⟩ := hfront.exists_stars
  obtain ⟨stars', hstars', hrest⟩ := hback.exists_stars
  obtain ⟨gap, gap', hcore, hgap, hgap'⟩ := exists_trim_append core
  refine ⟨lead ++ stars ++ gap, gap' ++ stars' ++ tail, ?_,
    ⟨lead, stars, gap, rfl, hlead, hstars, hgap⟩, ⟨gap', stars', tail, rfl, hgap', hstars', htail⟩⟩
  calc
    line = lead ++ trim line ++ tail := hline
    _ = lead ++ (stars ++ (core ++ stars')) ++ tail := by rw [htrim, hrest]
    _ = lead ++ (stars ++ (gap ++ undecorate line ++ gap' ++ stars')) ++ tail := by
      rw [hkept, ← hcore]
    _ = lead ++ stars ++ gap ++ undecorate line ++ (gap' ++ stars' ++ tail) := by simp

/-- Undecorating takes the gutters of a line with the white space around them, and nothing else. -/
theorem undecorate_dropsGutter (line : Text) :
    (∀ kept, undecorate line = kept ↔
        ∃ rest core, CutsFront (trim line) rest ∧ CutsBack rest core ∧ kept = trim core) ∧
      Trimmed (undecorate line) ∧
      (undecorate line = trim line ↔
        ¬StartsWithGutter (trim line) ∧ ¬FinishesWithGutter (trim line)) ∧
      (∃ front back, line = front ++ undecorate line ++ back ∧ IsMargin front ∧ IsMargin back) ∧
      ∀ lead tail, Blank lead → Blank tail →
        undecorate (lead ++ line ++ tail) = undecorate line := by
  refine ⟨fun _ => undecorate_eq_iff, trimmed_undecorate line, undecorate_eq_trim_iff,
    exists_margins line, ?_⟩
  intro lead tail hlead htail
  rw [← undecorate_trim, trim_surrounded hlead htail, undecorate_trim]

/-- A line in a comment whose text has asterisks at its start, in the middle and at its end. -/
def starredLine : Text := "** *so* it ** goes* **".toList

theorem undecorate_dropsGutter_starred :
    Blank "\u3000".toList ∧ Blank " \t".toList ∧
      undecorate ("\u3000".toList ++ starredLine ++ " \t".toList) = "*so* it ** goes*".toList := by
  obtain ⟨hkept, -, -, -, hsurrounded⟩ := undecorate_dropsGutter starredLine
  have hlead : Blank "\u3000".toList := List.all_eq_true.1 (by decide)
  have htail : Blank " \t".toList := List.all_eq_true.1 (by decide)
  have htrim : trim starredLine = "**".toList ++ " *so* it ** goes* **".toList := by decide
  have hstars : ∀ s ∈ "**".toList, s = '*' := by simp
  have hblank : isBlank ' ' = true := by decide
  have hfront : CutsFront (trim starredLine) " *so* it ** goes* **".toList := by
    rw [htrim]
    exact .gutter (by decide) hstars (by simp [hblank])
  have hback : CutsBack " *so* it ** goes* **".toList " *so* it ** goes* ".toList :=
    @CutsBack.gutter " *so* it ** goes*".toList "**".toList ' ' (by decide) hstars hblank
  refine ⟨hlead, htail, (hsurrounded _ _ hlead htail).trans ?_⟩
  exact (hkept _).2 ⟨_, _, hfront, hback, by decide⟩

end VerbDoc.Documentation
