import VerbDoc.Text.Basic

/-!
# Lines of a text

A line ends at CR LF, at CR or at LF; the pair counts as one ending. The last line has no
ending, so that every text has at least one line. Main statement: no line holds a CR or an LF.
-/
namespace VerbDoc.Text

def isLineEnd (c : Char) : Bool := c == '\r' || c == '\n'

def consFirst (c : Char) : List Text → List Text
  | [] => [[c]]
  | line :: rest => (c :: line) :: rest

def lines : Text → List Text
  | [] => [[]]
  | '\r' :: '\n' :: rest => [] :: lines rest
  | '\r' :: rest => [] :: lines rest
  | '\n' :: rest => [] :: lines rest
  | c :: rest => consFirst c (lines rest)

/-- A text without CR and LF. -/
def OneLine (t : Text) : Prop := ∀ c ∈ t, isLineEnd c = false

theorem lines_cons_of_not_lineEnd {c : Char} (h : isLineEnd c = false) (t : Text) :
    lines (c :: t) = consFirst c (lines t) := by
  have hr : c ≠ '\r' := by rintro rfl; simp [isLineEnd] at h
  have hn : c ≠ '\n' := by rintro rfl; simp [isLineEnd] at h
  rw [lines]
  · rintro rest rfl; exact absurd rfl hr
  · exact fun h' => hr h'
  · exact fun h' => hn h'

theorem lines_of_oneLine {t : Text} (h : OneLine t) : lines t = [t] := by
  induction t with
  | nil => rfl
  | cons c r ih =>
    rw [lines_cons_of_not_lineEnd (h c (by simp)), ih fun d hd => h d (by simp [hd])]
    rfl

theorem oneLine_of_mem_lines {t line : Text} (h : line ∈ lines t) : OneLine line := by
  fun_induction lines t generalizing line with
  | case1 => simp_all [OneLine]
  | case2 rest ih => grind [OneLine]
  | case3 rest _ ih => grind [OneLine]
  | case4 rest ih => grind [OneLine]
  | case5 c rest h1 h2 h3 ih =>
    have hc : isLineEnd c = false := by
      simp only [isLineEnd, Bool.or_eq_false_iff, beq_eq_false_iff_ne]
      exact ⟨h2, h3⟩
    match hl : lines rest, h with
    | [], h => simp [consFirst] at h; subst h; simpa [OneLine] using hc
    | first :: more, h =>
      rw [hl] at ih
      rcases List.mem_cons.1 h with rfl | hm
      · intro d hd
        rcases List.mem_cons.1 hd with rfl | hd
        · exact hc
        · exact ih (by simp) d hd
      · exact ih (by simp [hm])

end VerbDoc.Text
