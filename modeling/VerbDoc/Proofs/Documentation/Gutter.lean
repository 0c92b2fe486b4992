import Mathlib.Data.List.TakeWhile
import VerbDoc.Documentation.Parse

/-!
# The gutter of a line

Asterisks at the start of a line are a gutter if white space or a slash follows them, and those at
its end if white space comes before them; a line of asterisks alone is nothing but gutter. Main
statement: a trimmed line without a gutter is left as it is.
-/
namespace VerbDoc.Documentation

open Text

/-- The text starts with asterisks that white space or a slash follows. -/
def BeginsWithGutter (t : Text) : Prop :=
  ∃ stars c rest, stars ≠ [] ∧ (∀ s ∈ stars, s = '*') ∧ t = stars ++ c :: rest ∧
    (isBlank c = true ∨ c = '/')

/-- The text starts with asterisks that white space, a slash or nothing follows. -/
def StartsWithGutter (t : Text) : Prop :=
  ∃ stars rest, stars ≠ [] ∧ (∀ s ∈ stars, s = '*') ∧ t = stars ++ rest ∧
    ∀ c ∈ rest.head?, isBlank c = true ∨ c = '/'

/-- The text ends with asterisks that white space comes before, or has nothing else. -/
def EndsWithGutter (t : Text) : Prop :=
  ∃ before stars, stars ≠ [] ∧ (∀ s ∈ stars, s = '*') ∧ t = before ++ stars ∧
    ∀ c ∈ before.getLast?, isBlank c = true

/-! ## Runs of asterisks -/

theorem eq_star_of_mem_takeWhile {t : Text} {c : Char} (h : c ∈ t.takeWhile isStar) : c = '*' := by
  simpa [isStar] using List.all_eq_true.1 List.all_takeWhile c h

theorem head?_eq_star_iff {t : Text} : t.head? = some '*' ↔ t.takeWhile isStar ≠ [] := by
  cases t with
  | nil => simp
  | cons c rest => by_cases hc : c = '*' <;> simp [isStar, hc]

/-- Asterisks in front of something else are what is taken and dropped. -/
theorem takeWhile_dropWhile_stars {stars : Text} (hstars : ∀ s ∈ stars, s = '*') {rest : Text}
    (hrest : rest.head? ≠ some '*') :
    (stars ++ rest).takeWhile isStar = stars ∧ (stars ++ rest).dropWhile isStar = rest := by
  have hall : ∀ s ∈ stars, isStar s = true := by
    intro s hs
    simp [isStar, hstars s hs]
  rw [List.takeWhile_append_of_pos hall, List.dropWhile_append_of_pos hall]
  cases rest with
  | nil => simp
  | cons c more =>
    have hc : isStar c = false := by simpa [isStar] using hrest
    simp [hc]

theorem head?_ne_star {rest : Text} (h : ∀ c ∈ rest.head?, isBlank c = true ∨ c = '/') :
    rest.head? ≠ some '*' := by
  intro hstar
  rcases h '*' hstar with hblank | hslash
  · exact absurd hblank (by decide)
  · exact absurd hslash (by decide)

theorem beginsWithGutter_iff {t : Text} :
    BeginsWithGutter t ↔ t.head? = some '*' ∧
      ∃ c ∈ (t.dropWhile isStar).head?, isBlank c = true ∨ c = '/' := by
  constructor
  · rintro ⟨stars, c, rest, hne, hstars, rfl, hc⟩
    have hother : (c :: rest).head? ≠ some '*' := head?_ne_star (by simpa using hc)
    obtain ⟨htake, hdrop⟩ := takeWhile_dropWhile_stars hstars hother
    refine ⟨head?_eq_star_iff.2 (by rwa [htake]), c, ?_, hc⟩
    rw [hdrop]
    rfl
  · rintro ⟨hhead, c, hc, hgutter⟩
    obtain ⟨rest, hrest⟩ := List.head?_eq_some_iff.1 hc
    refine ⟨t.takeWhile isStar, c, rest, head?_eq_star_iff.1 hhead, ?_, ?_, hgutter⟩
    · exact fun s hs => eq_star_of_mem_takeWhile hs
    · rw [← hrest, List.takeWhile_append_dropWhile]

theorem startsWithGutter_iff {t : Text} :
    StartsWithGutter t ↔ t.head? = some '*' ∧
      ∀ c ∈ (t.dropWhile isStar).head?, isBlank c = true ∨ c = '/' := by
  constructor
  · rintro ⟨stars, rest, hne, hstars, rfl, hrest⟩
    obtain ⟨htake, hdrop⟩ := takeWhile_dropWhile_stars hstars (head?_ne_star hrest)
    rw [hdrop]
    exact ⟨head?_eq_star_iff.2 (by rwa [htake]), hrest⟩
  · rintro ⟨hhead, hrest⟩
    exact ⟨t.takeWhile isStar, t.dropWhile isStar, head?_eq_star_iff.1 hhead,
      fun s hs => eq_star_of_mem_takeWhile hs, List.takeWhile_append_dropWhile.symm, hrest⟩

/-- A line of asterisks alone is a gutter from either end. -/
theorem begins_or_endsWithGutter {t : Text} (h : StartsWithGutter t) :
    BeginsWithGutter t ∨ EndsWithGutter t := by
  obtain ⟨stars, rest, hne, hstars, rfl, hrest⟩ := h
  cases rest with
  | nil => exact .inr ⟨[], stars, hne, hstars, by simp, by simp⟩
  | cons c more => exact .inl ⟨stars, c, more, hne, hstars, rfl, hrest c rfl⟩

theorem endsWithGutter_iff {t : Text} :
    EndsWithGutter t ↔ t.getLast? = some '*' ∧
      ∀ c ∈ (t.reverse.dropWhile isStar).head?, isBlank c = true := by
  constructor
  · rintro ⟨before, stars, hne, hstars, rfl, hbefore⟩
    have hother : before.reverse.head? ≠ some '*' := by
      rw [List.head?_reverse]
      intro hlast
      exact absurd (hbefore '*' hlast) (by decide)
    have hreversed : ∀ s ∈ stars.reverse, s = '*' := fun s hs => hstars s (List.mem_reverse.1 hs)
    obtain ⟨htake, hdrop⟩ := takeWhile_dropWhile_stars hreversed hother
    rw [List.reverse_append, hdrop, List.head?_reverse]
    refine ⟨?_, hbefore⟩
    rw [← List.head?_reverse, head?_eq_star_iff, List.reverse_append, htake]
    simpa using hne
  · rintro ⟨hlast, hblank⟩
    refine ⟨(t.reverse.dropWhile isStar).reverse, (t.reverse.takeWhile isStar).reverse, ?_, ?_, ?_,
      ?_⟩
    · rw [← List.head?_reverse, head?_eq_star_iff] at hlast
      simpa using hlast
    · intro s hs
      rw [List.mem_reverse] at hs
      exact eq_star_of_mem_takeWhile hs
    · rw [← List.reverse_append, List.takeWhile_append_dropWhile, List.reverse_reverse]
    · rwa [List.getLast?_reverse]

/-- A gutter at the end of a text is one at the end of each final part of it. -/
theorem endsWithGutter_of_append {before t : Text} (ht : t ≠ [])
    (h : EndsWithGutter (before ++ t)) : EndsWithGutter t := by
  obtain ⟨hlast, hblank⟩ := endsWithGutter_iff.1 h
  have hsome := List.getLast?_eq_some_getLast ht
  rw [List.getLast?_append, hsome] at hlast
  refine endsWithGutter_iff.2 ⟨hsome.trans hlast, ?_⟩
  intro c hc
  apply hblank
  rw [List.reverse_append, List.dropWhile_append]
  cases hrest : t.reverse.dropWhile isStar with
  | nil =>
    rw [hrest] at hc
    cases hc
  | cons d more =>
    rw [hrest] at hc
    exact hc

instance (t : Text) : Decidable (BeginsWithGutter t) :=
  decidable_of_iff (t.head? = some '*' ∧
      (t.dropWhile isStar).head?.any (fun c => isBlank c || c == '/') = true) (by
    rw [beginsWithGutter_iff, Option.any_eq_true]
    simp)

instance (t : Text) : Decidable (StartsWithGutter t) :=
  decidable_of_iff (t.head? = some '*' ∧
      (t.dropWhile isStar).head?.all (fun c => isBlank c || c == '/') = true) (by
    rw [startsWithGutter_iff, Option.all_eq_true]
    simp)

instance (t : Text) : Decidable (EndsWithGutter t) :=
  decidable_of_iff (t.getLast? = some '*' ∧ (t.reverse.dropWhile isStar).head?.all isBlank = true)
    (by
      rw [endsWithGutter_iff, Option.all_eq_true]
      rfl)

/-! ## Lines without a gutter -/

theorem takeWhile_eq_nil_of_head? {t : Text} (h : t.head? ≠ some '*') :
    t.takeWhile isStar = [] ∧ t.dropWhile isStar = t :=
  @takeWhile_dropWhile_stars [] (by simp) t h

theorem dropLeadingStars_eq_self {t : Text} (h : ¬StartsWithGutter t) :
    dropLeadingStars t = t := by
  by_cases hhead : t.head? = some '*'
  · rw [startsWithGutter_iff, not_and] at h
    unfold dropLeadingStars
    split
    · next hnone => exact absurd (by simp [hnone]) (h hhead)
    · next c rest hrest =>
      split
      · next hgutter => exact absurd (by simpa [hrest] using hgutter) (h hhead)
      · rfl
  · obtain ⟨-, hdrop⟩ := takeWhile_eq_nil_of_head? hhead
    unfold dropLeadingStars
    rw [hdrop]
    cases t with
    | nil => rfl
    | cons c rest => exact ite_self _

theorem dropTrailingStars_eq_self {t : Text} (hend : ¬EndsWithGutter t) :
    dropTrailingStars t = t := by
  by_cases hlast : t.getLast? = some '*'
  · unfold dropTrailingStars
    split
    · next hnone => exact absurd (endsWithGutter_iff.2 ⟨hlast, by simp [hnone]⟩) hend
    · next c rest hrest =>
      split
      · next hblank =>
        refine absurd (endsWithGutter_iff.2 ⟨hlast, ?_⟩) hend
        intro d hd
        rw [hrest] at hd
        exact Option.some.inj hd ▸ hblank
      · rfl
  · rw [← List.head?_reverse] at hlast
    obtain ⟨-, hdrop⟩ := takeWhile_eq_nil_of_head? hlast
    unfold dropTrailingStars
    rw [hdrop]
    split
    · next hnil => simpa using hnil.symm
    · next c rest hrest => rw [← hrest, List.reverse_reverse, ite_self]

/-- A trimmed line without a gutter is left as it is. -/
theorem undecorate_eq_self {t : Text} (htrimmed : Trimmed t) (hbegin : ¬BeginsWithGutter t)
    (hend : ¬EndsWithGutter t) : undecorate t = t := by
  have hstart : ¬StartsWithGutter t := fun h => (begins_or_endsWithGutter h).elim hbegin hend
  rw [undecorate, trim_eq_self htrimmed, dropLeadingStars_eq_self hstart,
    dropTrailingStars_eq_self hend, trim_eq_self htrimmed]

/-! ## Lines with a gutter -/

theorem dropLeadingStars_append {stars rest : Text} (hstars : ∀ s ∈ stars, s = '*')
    (hrest : ∀ c ∈ rest.head?, isBlank c = true ∨ c = '/') :
    dropLeadingStars (stars ++ rest) = rest := by
  obtain ⟨-, hdrop⟩ := takeWhile_dropWhile_stars hstars (head?_ne_star hrest)
  unfold dropLeadingStars
  rw [hdrop]
  cases rest with
  | nil => rfl
  | cons c more => simp [hrest c rfl]

/-- The asterisks at the end of a text are those at the end of its last part, unless that has
nothing else. -/
theorem dropTrailingStars_append {t : Text} {c : Char} (hc : c ∈ t) (hstar : c ≠ '*')
    (before : Text) : dropTrailingStars (before ++ t) = before ++ dropTrailingStars t := by
  cases hrest : t.reverse.dropWhile isStar with
  | nil =>
    have hall := List.dropWhile_eq_nil_iff.1 hrest c (by simpa using hc)
    exact absurd (by simpa [isStar] using hall) hstar
  | cons d more =>
    have happend : (before ++ t).reverse.dropWhile isStar = d :: (more ++ before.reverse) := by
      rw [List.reverse_append, List.dropWhile_append, hrest]
      rfl
    unfold dropTrailingStars
    rw [happend, hrest]
    cases hblank : isBlank d with
    | true => simp [hblank]
    | false => simp [hblank]

end VerbDoc.Documentation
