import Mathlib.Data.List.TakeWhile
import VerbDoc.Text.Basic

/-!
# Trimming

What trimming leaves of a text is the only part of it that has no white space at its ends and
nothing but white space around it. Main statements: this characterisation, and that nothing is left
of a text exactly if it is white space.
-/
namespace VerbDoc.Text

def Blank (t : Text) : Prop := ∀ c ∈ t, isBlank c = true

theorem blank_nil : Blank [] := fun _ hc => nomatch hc

theorem blank_append {s t : Text} (hs : Blank s) (ht : Blank t) : Blank (s ++ t) := by
  intro c hc
  rcases List.mem_append.1 hc with hc | hc
  · exact hs c hc
  · exact ht c hc

theorem exists_trim_append (t : Text) :
    ∃ lead tail, t = lead ++ trim t ++ tail ∧ Blank lead ∧ Blank tail := by
  obtain ⟨lead, hlead, hleads⟩ := exists_append_trimStart t
  obtain ⟨tail, htail, htails⟩ := exists_trimEnd_append (trimStart t)
  refine ⟨lead, tail, ?_, hleads, htails⟩
  rw [List.append_assoc]
  exact hlead.trans (congrArg (lead ++ ·) htail)

/-- Trimming leaves what stands between the white space at the ends. -/
theorem trim_append_append {lead core tail : Text} (hlead : Blank lead) (hcore : Trimmed core)
    (htail : Blank tail) : trim (lead ++ core ++ tail) = core := by
  have hstart : trimStart (lead ++ core ++ tail) = trimStart (core ++ tail) := by
    rw [List.append_assoc]
    exact List.dropWhile_append_of_pos hlead
  rw [trim, hstart]
  cases core with
  | nil =>
    have hnone : trimStart tail = [] := List.dropWhile_eq_nil_iff.2 htail
    rw [List.nil_append, hnone]
    rfl
  | cons c rest =>
    have hreversed : ∀ d ∈ tail.reverse, isBlank d = true :=
      fun d hd => htail d (List.mem_reverse.1 hd)
    rw [trimStart_eq_self (by simpa using hcore.1), trimEnd, List.reverse_append,
      List.dropWhile_append_of_pos hreversed]
    exact trimEnd_eq_self hcore.2

/-- White space around a text does not count. -/
theorem trim_surrounded {lead tail : Text} (hlead : Blank lead) (htail : Blank tail) (t : Text) :
    trim (lead ++ t ++ tail) = trim t := by
  obtain ⟨before, after, ht, hbefore, hafter⟩ := exists_trim_append t
  have hsplit : lead ++ t ++ tail = lead ++ before ++ trim t ++ (after ++ tail) := by
    conv => lhs; rw [ht]
    simp
  rw [hsplit, trim_append_append (blank_append hlead hbefore) (trimmed_trim t)
    (blank_append hafter htail)]

theorem trim_append_of_blank {lead : Text} (hlead : Blank lead) (t : Text) :
    trim (lead ++ t) = trim t := by
  simpa using trim_surrounded hlead blank_nil t

theorem trim_cons_of_blank {c : Char} (hblank : isBlank c = true) (t : Text) :
    trim (c :: t) = trim t :=
  @trim_append_of_blank [c] (by simpa [Blank] using hblank) t

theorem trim_eq_nil_iff {t : Text} : trim t = [] ↔ Blank t := by
  constructor
  · intro hnil
    obtain ⟨lead, tail, ht, hlead, htail⟩ := exists_trim_append t
    rw [hnil, List.append_nil] at ht
    rw [ht]
    exact blank_append hlead htail
  · intro hblank
    simpa [trim, trimEnd, trimStart] using trim_append_of_blank hblank []

theorem trim_ne_nil {t : Text} {c : Char} (hc : c ∈ t) (hblank : isBlank c = false) :
    trim t ≠ [] := by
  intro hnil
  rw [trim_eq_nil_iff.1 hnil c hc] at hblank
  cases hblank

/-- A trimmed text does not end in white space, so that something is left of any final part. -/
theorem trim_ne_nil_of_trimmed_append {before tail : Text} (h : Trimmed (before ++ tail))
    (htail : tail ≠ []) : trim tail ≠ [] := by
  have hlast : (before ++ tail).getLast? = some (tail.getLast htail) := by
    rw [List.getLast?_append, List.getLast?_eq_some_getLast htail]
    rfl
  exact trim_ne_nil (List.getLast_mem htail) (h.2 _ hlast)

/-- What trimming drops of a final part stands in front of it. -/
theorem exists_blank_append_trim {before t : Text} (h : Trimmed (before ++ t)) :
    ∃ gap, Blank gap ∧ t = gap ++ trim t := by
  obtain ⟨gap, tail, ht, hgap, htail⟩ := exists_trim_append t
  have hnil : tail = [] := by
    by_contra hne
    have hlast : (before ++ t).getLast? = some (tail.getLast hne) := by
      rw [ht, ← List.append_assoc, List.getLast?_append, List.getLast?_eq_some_getLast hne]
      rfl
    have hblank := htail _ (List.getLast_mem hne)
    rw [h.2 _ hlast] at hblank
    cases hblank
  rw [hnil, List.append_nil] at ht
  exact ⟨gap, hgap, ht⟩

theorem length_trim_le (t : Text) : (trim t).length ≤ t.length := by
  obtain ⟨lead, tail, ht, -, -⟩ := exists_trim_append t
  have hlength := congrArg List.length ht
  rw [List.length_append, List.length_append] at hlength
  omega

theorem mem_of_mem_trim {t : Text} {c : Char} (hc : c ∈ trim t) : c ∈ t := by
  obtain ⟨lead, tail, ht, -, -⟩ := exists_trim_append t
  rw [ht]
  simp [hc]

end VerbDoc.Text
