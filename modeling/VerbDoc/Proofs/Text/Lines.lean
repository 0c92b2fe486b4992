import VerbDoc.Text.Lines

/-!
# Writing lines

Lines are written with an ending between neighbours, which is one of the three that separate
lines. Main statements: what is read of a line in front of a text, and of an ending in front of it.
-/
namespace VerbDoc.Text

/-- What stands between two lines. -/
inductive LineEnding where
  | lf | cr | crLf
  deriving DecidableEq, Repr

def LineEnding.text : LineEnding → Text
  | .lf => ['\n']
  | .cr => ['\r']
  | .crLf => ['\r', '\n']

theorem isLineEnd_eq_false {c : Char} (hcr : c ≠ '\r') (hlf : c ≠ '\n') :
    isLineEnd c = false := by
  simp only [isLineEnd, Bool.or_eq_false_iff, beq_eq_false_iff_ne]
  exact ⟨hcr, hlf⟩

theorem lines_append_of_oneLine {line : Text} (hline : OneLine line) {rest first : Text}
    {more : List Text} (hrest : lines rest = first :: more) :
    lines (line ++ rest) = (line ++ first) :: more := by
  induction line with
  | nil => exact hrest
  | cons c tail ih =>
    have hc : isLineEnd c = false := hline c (by simp)
    have htail : OneLine tail := fun d hd => hline d (by simp [hd])
    rw [List.cons_append, lines_cons_of_not_lineEnd hc, ih htail]
    rfl

/-- An ending starts a line, unless it is a CR that an LF follows. -/
theorem lines_ending_append {ending : LineEnding} {rest : Text}
    (hrest : ending = .cr → rest.head? ≠ some '\n') :
    lines (ending.text ++ rest) = [] :: lines rest := by
  cases ending with
  | lf => rfl
  | crLf => rfl
  | cr =>
    show lines ('\r' :: rest) = [] :: lines rest
    rw [lines]
    rintro more rfl
    exact hrest rfl rfl

theorem joinWith_cons_cons (sep first second : Text) (rest : List Text) :
    joinWith sep (first :: second :: rest) = first ++ (sep ++ joinWith sep (second :: rest)) := by
  simp [joinWith]

theorem head?_joinWith {sep first : Text} (hfirst : first ≠ []) (rest : List Text) :
    (joinWith sep (first :: rest)).head? = first.head? := by
  cases rest with
  | nil => simp [joinWith]
  | cons second more =>
    rw [joinWith_cons_cons, List.head?_append]
    cases first with
    | nil => exact absurd rfl hfirst
    | cons c tail => rfl

theorem head?_ne_lf_of_oneLine {t : Text} (ht : OneLine t) : t.head? ≠ some '\n' := by
  intro hhead
  have hend := ht '\n' (List.mem_of_mem_head? hhead)
  simp [isLineEnd] at hend

theorem consFirst_append {first : List Text} (hfirst : first ≠ []) (c : Char)
    (more : List Text) : consFirst c (first ++ more) = consFirst c first ++ more := by
  cases first with
  | nil => exact absurd rfl hfirst
  | cons line rest => rfl

/-- An LF ends the last line of a text, unless the text ends in a CR: then the two are one ending,
and the empty line after the CR goes. -/
theorem exists_lines_append_lf (t : Text) :
    ∃ before, before ≠ [] ∧ (lines t = before ∨ lines t = before ++ [[]]) ∧
      ∀ rest, lines (t ++ '\n' :: rest) = before ++ lines rest := by
  fun_induction lines t with
  | case1 => exact ⟨[[]], by simp, .inl rfl, fun _ => rfl⟩
  | case2 rest ih | case4 rest ih =>
    obtain ⟨before, -, hbefore, happend⟩ := ih
    refine ⟨[] :: before, by simp, by simpa using hbefore, fun more => ?_⟩
    show [] :: lines (rest ++ '\n' :: more) = _
    rw [happend, List.cons_append]
  | case3 rest hlf ih =>
    cases rest with
    | nil => exact ⟨[[]], by simp, .inr rfl, fun _ => rfl⟩
    | cons c others =>
      obtain ⟨before, -, hbefore, happend⟩ := ih
      refine ⟨[] :: before, by simp, by simpa using hbefore, fun more => ?_⟩
      have hc : (c :: others ++ '\n' :: more).head? ≠ some '\n' := by
        rintro heq
        obtain rfl : c = '\n' := by simpa using heq
        exact hlf others rfl
      have hending := @lines_ending_append .cr _ fun _ => hc
      rw [happend] at hending
      exact hending
  | case5 c rest _ hcr hlf ih =>
    obtain ⟨before, hne, hbefore, happend⟩ := ih
    have hc : isLineEnd c = false := isLineEnd_eq_false hcr hlf
    refine ⟨consFirst c before, ?_, ?_, fun more => ?_⟩
    · cases before <;> simp [consFirst]
    · rcases hbefore with hbefore | hbefore
      · exact .inl (congrArg (consFirst c) hbefore)
      · exact .inr ((congrArg (consFirst c) hbefore).trans (consFirst_append hne c _))
    · rw [List.cons_append, lines_cons_of_not_lineEnd hc, happend, consFirst_append hne]

end VerbDoc.Text
