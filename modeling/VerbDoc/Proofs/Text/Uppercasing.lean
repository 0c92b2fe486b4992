import Mathlib.Data.List.Basic
import VerbDoc.Text.Case

/-!
# Texts that are in upper case already

What a character becomes in upper case has no upper case of its own, although a character may
become several. The table has too many characters to look at each of them. Its runs are compared
instead: the images of one lie apart from another run, or in its gaps. Main statement: a text in
upper case stays as it is when it is put in upper case again.
-/
namespace VerbDoc.Text

namespace Case

/-! ## Runs and their images -/

/-- No image of a code point of the run belongs to the other run: the two lie apart, or both go in
steps of two and the images are the code points that the other one leaves out. -/
def Run.misses (run other : Run) : Bool :=
  (run.target + (run.last - run.first)).blt other.first || other.last.blt run.target ||
    ((run.target + other.first) % 2).beq 1 && (other.step % 2).beq 0 &&
      ((run.step % 2).beq 0 || run.first.beq run.last)

def Run.point (code : Nat) : Run := ⟨code, code, 2, code⟩

/-- What a code point of a run is mapped to. -/
theorem Run.image?_eq_some_iff {run : Run} {code image : Nat} :
    run.image? code = some image ↔
      (run.first ≤ code ∧ code ≤ run.last ∧ (code - run.first) % run.step = 0) ∧
        run.target + (code - run.first) = image := by
  unfold image?
  split <;> simp_all

theorem Run.image?_point (code : Nat) : (Run.point code).image? code = some code := by
  rw [image?_eq_some_iff]
  simp [point]

/-- What lies at a multiple of an even step from the start lies at an even distance. -/
theorem mod_two_eq_zero {distance step : Nat} (hstep : step % 2 = 0)
    (hdistance : distance % step = 0) : distance % 2 = 0 :=
  Nat.mod_eq_zero_of_dvd
    (Nat.dvd_trans (Nat.dvd_of_mod_eq_zero hstep) (Nat.dvd_of_mod_eq_zero hdistance))

theorem Run.image?_eq_none_of_misses {run other : Run} (hmisses : run.misses other = true)
    {code image : Nat} (himage : run.image? code = some image) : other.image? image = none := by
  obtain ⟨⟨hfirst, hlast, hstep⟩, rfl⟩ := image?_eq_some_iff.1 himage
  simp only [misses, Bool.or_eq_true, Bool.and_eq_true, Nat.blt_eq, Nat.beq_eq] at hmisses
  by_contra hsome
  obtain ⟨again, hagain⟩ := Option.ne_none_iff_exists'.1 hsome
  obtain ⟨⟨hfirst', hlast', hstep'⟩, -⟩ := image?_eq_some_iff.1 hagain
  rcases hmisses with (hafter | hbefore) | ⟨⟨hparity, hother⟩, heven⟩
  · omega
  · omega
  · -- Steps of two lead from the start of either run, and the starts are an odd distance apart.
    have heven' := mod_two_eq_zero hother hstep'
    have hdistance : (code - run.first) % 2 = 0 := by
      rcases heven with heven | hpoint
      · exact mod_two_eq_zero heven hstep
      · omega
    omega

/-! ## The table of upper case -/

def expandedCodes : List Nat := (upperExpansions.flatMap Prod.snd).eraseDups

theorem upperRuns_miss_upperRuns :
    (upperRuns.all fun run => upperRuns.all run.misses) = true := by decide +kernel

theorem upperRuns_miss_upperExpansions :
    (upperRuns.all fun run => upperExpansions.all fun e => run.misses (.point e.1)) = true := by
  decide +kernel

theorem expandedCodes_miss_upperRuns :
    (expandedCodes.all fun code => upperRuns.all (Run.point code).misses) = true := by
  decide +kernel

theorem expandedCodes_miss_upperExpansions :
    (expandedCodes.all fun code => upperExpansions.all fun e => !e.1.beq code) = true := by
  decide +kernel

/-- A code point that neither becomes several nor belongs to a run stays as it is. -/
theorem upperChar_ofNat {code : Nat} (hvalid : (Char.ofNat code).toNat = code)
    (hexpansions : ∀ e ∈ upperExpansions, e.1 ≠ code)
    (hruns : ∀ run ∈ upperRuns, run.image? code = none) :
    upperChar (Char.ofNat code) = [Char.ofNat code] := by
  have hlookup : upperExpansions.lookup code = none := by
    rw [List.lookup_eq_none_iff]
    intro e he
    simpa using (hexpansions e he).symm
  have hfound : upperRuns.findSome? (Run.image? · code) = none := by
    rw [List.findSome?_eq_none_iff]
    exact hruns
  simp only [upperChar, image, hvalid, hlookup, hfound]

/-- What is no code point is taken for the null character, which has no upper case. -/
theorem toNat_ofNat_or (code : Nat) :
    (Char.ofNat code).toNat = code ∨ Char.ofNat code = '\x00' := by
  by_cases hvalid : code.isValidChar
  · have hchar : Char.ofNat code = Char.ofNatAux code hvalid := dif_pos hvalid
    rw [hchar]
    exact .inl rfl
  · exact .inr (dif_neg hvalid)

theorem upperChar_null : upperChar '\x00' = ['\x00'] := by decide +kernel

/-- The image of a code point of a run stays as it is. -/
theorem upperChar_of_image? {run : Run} (hrun : run ∈ upperRuns) {code image : Nat}
    (himage : run.image? code = some image) :
    upperChar (Char.ofNat image) = [Char.ofNat image] := by
  rcases toNat_ofNat_or image with hvalid | hnull
  · refine upperChar_ofNat hvalid ?_ ?_
    · rintro e he rfl
      have hmisses :=
        List.all_eq_true.1 (List.all_eq_true.1 upperRuns_miss_upperExpansions run hrun) e he
      have hnone := Run.image?_eq_none_of_misses hmisses himage
      rw [Run.image?_point] at hnone
      cases hnone
    · intro other hother
      have hmisses := List.all_eq_true.1 (List.all_eq_true.1 upperRuns_miss_upperRuns run hrun)
        other hother
      exact Run.image?_eq_none_of_misses hmisses himage
  · rw [hnull, upperChar_null]

/-- Each of the several characters that a character becomes stays as it is. -/
theorem upperChar_of_mem_expandedCodes {code : Nat} (hcode : code ∈ expandedCodes) :
    upperChar (Char.ofNat code) = [Char.ofNat code] := by
  rcases toNat_ofNat_or code with hvalid | hnull
  · refine upperChar_ofNat hvalid ?_ ?_
    · rintro e he rfl
      have hother := List.all_eq_true.1
        (List.all_eq_true.1 expandedCodes_miss_upperExpansions e.1 hcode) e he
      simp at hother
    · intro run hrun
      have hmisses := List.all_eq_true.1
        (List.all_eq_true.1 expandedCodes_miss_upperRuns code hcode) run hrun
      exact Run.image?_eq_none_of_misses hmisses (Run.image?_point code)
  · rw [hnull, upperChar_null]

/-- A character that a character becomes in upper case stays as it is. -/
theorem upperChar_of_mem_upperChar {c d : Char} (hd : d ∈ upperChar c) : upperChar d = [d] := by
  unfold upperChar image at hd
  split at hd
  · next codes hlookup =>
    obtain ⟨code, hcode, rfl⟩ := List.mem_map.1 hd
    obtain ⟨before, after, htable, -⟩ := List.lookup_eq_some_iff.1 hlookup
    have hentry : (c.toNat, codes) ∈ upperExpansions := by simp [htable]
    apply upperChar_of_mem_expandedCodes
    rw [expandedCodes, List.mem_eraseDups, List.mem_flatMap]
    exact ⟨_, hentry, hcode⟩
  · next hlookup =>
    split at hd
    · next code hfound =>
      obtain rfl := List.mem_singleton.1 hd
      obtain ⟨run, hrun, himage⟩ := List.exists_of_findSome?_eq_some hfound
      exact upperChar_of_image? hrun himage
    · next hfound =>
      obtain rfl := List.mem_singleton.1 hd
      simp only [upperChar, image, hlookup, hfound]

end Case

/-- A text in upper case stays as it is when it is put in upper case again. -/
@[simp] theorem upper_upper (t : Text) : upper (upper t) = upper t := by
  rw [upper, upper, List.flatMap_assoc]
  congr 1
  funext c
  calc (Case.upperChar c).flatMap Case.upperChar
      = (Case.upperChar c).flatMap fun d => [d] :=
        List.flatMap_congr fun d hd => Case.upperChar_of_mem_upperChar hd
    _ = Case.upperChar c := List.flatMap_singleton' _

/-- No text has a text for its upper case that is not in upper case itself. -/
theorem upper_ne {v : Text} (hv : v ≠ upper v) (name : Text) : upper name ≠ v := by
  rintro rfl
  exact hv (upper_upper name).symm

end VerbDoc.Text
