import Mathlib.Data.List.Forall2
import VerbDoc.Proofs.Text.Lines
import VerbDoc.Proofs.Text.Trimming
import VerbDoc.Settings.EnvFile

/-!
# Lines of a file of environment variables

A line of such a file is blank, a comment, or a variable with its value, which may stand in quotes
and may have a comment behind it. Main statement: a file whose lines are of these three kinds is
read line by line, whatever ends its lines, and gives the variables in order.
-/
namespace VerbDoc.Settings.EnvFile

open Text

/-! ## What may be written -/

/-- A name that is written without quotes. -/
structure IsName (t : Text) : Prop where
  ne_nil : t ≠ []
  inside : ∀ c ∈ t, endsName c = false
  unquoted : t.head? ≠ some '\''

instance (t : Text) : Decidable (IsName t) :=
  decidable_of_iff
    (t ≠ [] ∧ (t.all fun c => !endsName c) = true ∧ t.head? ≠ some '\'') <| by
      simp only [List.all_eq_true, Bool.not_eq_true']
      exact ⟨fun ⟨hne, hinside, hhead⟩ => ⟨hne, hinside, hhead⟩,
        fun ⟨hne, hinside, hhead⟩ => ⟨hne, hinside, hhead⟩⟩

/-- The text between quotes, as it is written, stands for this text: a backslash belongs to the
character after it. -/
inductive Quotes (quote : Char) (escape? : Char → Option Char) : Text → Text → Prop where
  | nil : Quotes quote escape? [] []
  | char {c : Char} {written t : Text} (hquote : c ≠ quote) (hbackslash : c ≠ '\\')
    (hrest : Quotes quote escape? written t) : Quotes quote escape? (c :: written) (c :: t)
  | escape {c : Char} {written t : Text} (hrest : Quotes quote escape? written t) :
    Quotes quote escape? ('\\' :: c :: written) ((escape? c).elim ['\\', c] (fun d => [d]) ++ t)

/-- White space, and perhaps a comment behind it. -/
inductive IsRemark : Text → Prop where
  | blank {t : Text} (ht : Blank t) : IsRemark t
  | comment {space : Text} (hspace : Blank space) (remark : Text) :
    IsRemark (space ++ '#' :: remark)

/-- What stands behind an equals sign gives this value. Without quotes a value is trimmed, opens
with no quote, and goes on to the end of its line or to white space before a `#`. -/
inductive WritesValue : Text → Text → Prop where
  | plain {lead value tail : Text} (hlead : Blank lead) (hvalue : Trimmed value)
    (hopening : ∀ c, value.head? = some c → c ≠ '\'' ∧ c ≠ '"')
    (hinside : ∀ c, [c, '#'] <:+: lead ++ value → isBlank c = false)
    (htail : IsRemark tail) (hspace : tail.head? ≠ some '#') :
    WritesValue (lead ++ value ++ tail) value
  | single {lead written value tail : Text} (hlead : Blank lead)
    (hquotes : Quotes '\'' singleEscape? written value) (htail : IsRemark tail) :
    WritesValue (lead ++ '\'' :: (written ++ '\'' :: tail)) value
  | double {lead written value tail : Text} (hlead : Blank lead)
    (hquotes : Quotes '"' doubleEscape? written value) (htail : IsRemark tail) :
    WritesValue (lead ++ '"' :: (written ++ '"' :: tail)) value

/-- What may stand in front of a name. -/
inductive IsExport : Text → Prop where
  | nothing : IsExport []
  | word {c : Char} {space : Text} (hspace : Blank (c :: space)) :
    IsExport ("export".toList ++ c :: space)

/-- A line is blank, a comment, or a variable with its value. A variable that is itself called
`export` has its equals sign next to it. -/
inductive Tells : Text → List Entry → Prop where
  | blank {line : Text} (hline : Blank line) : Tells line []
  | comment {indent : Text} (hindent : Blank indent) (remark : Text) :
    Tells (indent ++ '#' :: remark) []
  | assigns {indent exported name gap written value : Text} (hindent : Blank indent)
    (hexported : IsExport exported) (hname : IsName name) (hgap : Blank gap)
    (hcalled : exported = [] → name = "export".toList → gap = [])
    (hvalue : WritesValue written value) :
    Tells (indent ++ (exported ++ (name ++ (gap ++ '=' :: written)))) [(name, some value)]

/-- What follows a line in a file: nothing, or a line feed and further lines. -/
inductive FollowsLine : Text → Prop where
  | nothing : FollowsLine []
  | further (rest : Text) : FollowsLine ('\n' :: rest)

/-! ## White space -/

theorem blank_lf : Blank ['\n'] := by
  simp [Blank]
  decide

theorem isSpacing_lf : isSpacing '\n' = false := by decide

theorem ne_lf_of_oneLine {t : Text} (ht : OneLine t) {c : Char} (hc : c ∈ t) : c ≠ '\n' := by
  rintro rfl
  exact absurd (ht _ hc) (by decide)

theorem isSpacing_of_blank {t : Text} (ht : Blank t) (hline : OneLine t) :
    ∀ c ∈ t, isSpacing c = true := by
  intro c hc
  simp [isSpacing, ht c hc, ne_lf_of_oneLine hline hc]

theorem oneLine_append {s t : Text} : OneLine (s ++ t) ↔ OneLine s ∧ OneLine t := by
  simp only [OneLine, List.mem_append]
  exact ⟨fun h => ⟨fun c hc => h c (.inl hc), fun c hc => h c (.inr hc)⟩,
    fun h c hc => hc.elim (h.1 c) (h.2 c)⟩

theorem oneLine_cons {c : Char} {t : Text} :
    OneLine (c :: t) ↔ isLineEnd c = false ∧ OneLine t := by
  simp [OneLine]

/-- A run in front of a text that goes on with something else. -/
theorem span_append {p : Char → Bool} {t u : Text} (ht : ∀ c ∈ t, p c = true)
    (hu : ∀ c, u.head? = some c → p c = false) :
    (t ++ u).takeWhile p = t ∧ (t ++ u).dropWhile p = u := by
  rw [List.takeWhile_append_of_pos ht, List.dropWhile_append_of_pos ht]
  cases u with
  | nil => simp
  | cons c more => simp [hu c rfl]

namespace FollowsLine

variable {after : Text}

theorem head?_ne (h : FollowsLine after) {c : Char} (hc : after.head? = some c) : c = '\n' := by
  cases h with
  | nothing => cases hc
  | further rest => exact (Option.some.inj hc).symm

/-- The line that is left is skipped with its end. -/
theorem skipLine_append (h : FollowsLine after) {t : Text} (ht : OneLine t) :
    skipLine (t ++ after) = after.drop 1 := by
  have hrun : ∀ c ∈ t, (c != '\n') = true := fun c hc => by simpa using ne_lf_of_oneLine ht hc
  rw [skipLine, (span_append hrun ?_).2]
  intro c hc
  simp [h.head?_ne hc]

theorem dropWhile_remark (h : FollowsLine after) {t : Text} (ht : IsRemark t) (hline : OneLine t) :
    (t ++ after).dropWhile isSpacing = after ∨
      ∃ remark, OneLine remark ∧ (t ++ after).dropWhile isSpacing = '#' :: (remark ++ after) := by
  cases ht with
  | blank hblank =>
    refine .inl (span_append (isSpacing_of_blank hblank hline) ?_).2
    intro c hc
    rw [h.head?_ne hc]
    exact isSpacing_lf
  | @comment space hspace remark =>
    rw [oneLine_append, oneLine_cons] at hline
    refine .inr ⟨remark, hline.2.2, ?_⟩
    rw [List.append_assoc, List.cons_append]
    refine (span_append (isSpacing_of_blank hspace hline.1) ?_).2
    intro c hc
    obtain rfl := Option.some.inj hc
    decide

theorem afterEnd?_append (h : FollowsLine after) {t : Text} (ht : IsRemark t) (hline : OneLine t) :
    afterEnd? (t ++ after) = some (after.drop 1) := by
  rcases h.dropWhile_remark ht hline with hdrop | ⟨remark, hremark, hdrop⟩
  · rw [afterEnd?, hdrop]
    cases h <;> rfl
  · rw [afterEnd?, hdrop]
    simp only [h.skipLine_append hremark]

end FollowsLine

/-! ## Values -/

theorem mem_of_mem_beforeComment {t : Text} {c : Char} (hc : c ∈ beforeComment t) : c ∈ t := by
  induction t with
  | nil => cases hc
  | cons d rest ih =>
    rw [beforeComment] at hc
    split at hc
    · cases hc
    · rcases List.mem_cons.1 hc with rfl | hc
      · simp
      · exact List.mem_cons_of_mem _ (ih hc)

/-- Of a remark that begins with white space nothing is read but white space. -/
theorem blank_beforeComment {t : Text} (ht : IsRemark t) (hspace : t.head? ≠ some '#') :
    Blank (beforeComment t) := by
  cases ht with
  | blank hblank => exact fun c hc => hblank c (mem_of_mem_beforeComment hc)
  | @comment space hblank remark =>
    cases space with
    | nil => exact absurd rfl hspace
    | cons c more =>
      obtain ⟨hc, hmore⟩ := List.forall_mem_cons.1 hblank
      have hspan := span_append (p := isBlank) (u := '#' :: remark) hmore ?_
      · rw [List.cons_append, beforeComment, hspan.2, hc]
        exact fun _ h => nomatch h
      · rintro d hd
        obtain rfl := Option.some.inj hd
        decide

/-- A `#` behind white space has white space right before it. -/
theorem exists_infix_of_blank {space : Text} (hne : space ≠ []) (hspace : Blank space)
    (more : Text) : ∃ c, [c, '#'] <:+: space ++ '#' :: more ∧ isBlank c = true := by
  obtain ⟨before, c, rfl⟩ := List.eq_nil_or_concat space |>.resolve_left hne
  refine ⟨c, ⟨before, more, by simp⟩, hspace c (by simp)⟩

/-- Where a `#` comes next behind white space in a text that does not end in white space, it has
white space right before it. -/
theorem exists_infix_of_head? {c : Char} {rest tail : Text} (hc : isBlank c = true)
    (hlast : ∀ d, (c :: rest).getLast? = some d → isBlank d = false)
    (hhead : ((rest ++ tail).dropWhile isBlank).head? = some '#') :
    ∃ d, [d, '#'] <:+: c :: rest ∧ isBlank d = true := by
  have hsplit := List.takeWhile_append_dropWhile (p := isBlank) (l := rest)
  have hspace : Blank (c :: rest.takeWhile isBlank) :=
    List.forall_mem_cons.2 ⟨hc, fun d hd => List.mem_takeWhile_imp hd⟩
  cases hafter : rest.dropWhile isBlank with
  | nil =>
    rw [hafter, List.append_nil] at hsplit
    rw [hsplit] at hspace
    have hend := hspace _ (List.getLast_mem (List.cons_ne_nil c rest))
    rw [hlast _ (List.getLast?_eq_some_getLast _)] at hend
    cases hend
  | cons d more =>
    rw [List.dropWhile_append, hafter] at hhead
    obtain rfl : d = '#' := Option.some.inj hhead
    obtain ⟨e, he, hblank⟩ := exists_infix_of_blank (List.cons_ne_nil _ _) hspace more
    rw [hafter] at hsplit
    rw [List.cons_append, hsplit] at he
    exact ⟨e, he, hblank⟩

/-- No comment begins in a text without a `#` behind white space. -/
theorem beforeComment_append {u : Text} (hinside : ∀ c, [c, '#'] <:+: u → isBlank c = false)
    (hlast : ∀ c, u.getLast? = some c → isBlank c = false) (tail : Text) :
    beforeComment (u ++ tail) = u ++ beforeComment tail := by
  induction u with
  | nil => rfl
  | cons c rest ih =>
    have hrest : beforeComment (rest ++ tail) = rest ++ beforeComment tail := by
      refine ih (fun d hd => hinside d (List.infix_cons hd)) fun d hd => hlast d ?_
      rw [List.getLast?_cons, hd]
      rfl
    have hgoes : ¬(isBlank c && ((rest ++ tail).dropWhile isBlank).head? == some '#') = true := by
      rw [Bool.and_eq_true, beq_iff_eq]
      rintro ⟨hc, hhead⟩
      obtain ⟨d, hd, hblank⟩ := exists_infix_of_head? hc hlast hhead
      exact Bool.false_ne_true ((hinside d hd).symm.trans hblank)
    rw [List.cons_append, beforeComment, if_neg hgoes, hrest]
    rfl

theorem IsRemark.append {lead tail : Text} (htail : IsRemark tail) (hlead : Blank lead) :
    IsRemark (lead ++ tail) := by
  cases htail with
  | blank hblank => exact .blank (blank_append hlead hblank)
  | @comment space hblank remark =>
    rw [← List.append_assoc]
    exact .comment (blank_append hlead hblank) remark

/-- A value without quotes is what stands before a remark. -/
theorem trim_beforeComment {lead value tail : Text} (hlead : Blank lead) (hvalue : Trimmed value)
    (hinside : ∀ c, [c, '#'] <:+: lead ++ value → isBlank c = false) (htail : IsRemark tail)
    (hspace : tail.head? ≠ some '#') : trim (beforeComment (lead ++ value ++ tail)) = value := by
  cases value with
  | nil =>
    have hhead : (lead ++ tail).head? ≠ some '#' := by
      cases lead with
      | nil => exact hspace
      | cons c more =>
        intro hc
        obtain rfl := Option.some.inj hc
        exact absurd (hlead _ List.mem_cons_self) (by decide)
    rw [List.append_nil]
    exact trim_eq_nil_iff.2 (blank_beforeComment (htail.append hlead) hhead)
  | cons c rest =>
    have hlast : ∀ d, (lead ++ c :: rest).getLast? = some d → isBlank d = false := by
      intro d hd
      have hend := List.getLast?_eq_some_getLast (List.cons_ne_nil c rest)
      rw [List.getLast?_append, hend] at hd
      exact hvalue.2 d (hend.trans hd)
    rw [beforeComment_append hinside hlast]
    exact trim_append_append hlead hvalue (blank_beforeComment htail hspace)

namespace Quotes

variable {quote : Char} {escape? : Char → Option Char} {written t : Text}

/-- A text with neither the quote nor a backslash is written as it is. -/
theorem of_not_mem (hquote : quote ∉ t) (hbackslash : '\\' ∉ t) : Quotes quote escape? t t := by
  induction t with
  | nil => exact .nil
  | cons c rest ih =>
    rw [List.mem_cons, not_or] at hquote hbackslash
    exact .char (Ne.symm hquote.1) (Ne.symm hbackslash.1) (ih hquote.2 hbackslash.2)

theorem splitQuoted_append (h : Quotes quote escape? written t) (hquote : quote ≠ '\\')
    (after : Text) : splitQuoted quote (written ++ quote :: after) = some (written, after) := by
  induction h with
  | nil =>
    rw [List.nil_append, splitQuoted]
    · simp
    · rintro c rest h -
      exact absurd h hquote
  | @char c written t hne hbackslash _ ih =>
    rw [List.cons_append, splitQuoted, if_neg hne, ih]
    · rfl
    · rintro d rest h -
      exact absurd h hbackslash
  | escape _ ih =>
    rw [List.cons_append, List.cons_append, splitQuoted, ih]
    rfl

theorem unescape_eq (h : Quotes quote escape? written t) : unescape escape? written = t := by
  induction h with
  | nil => rfl
  | @char c written t _ hbackslash _ ih =>
    rw [unescape, ih]
    rintro d rest h -
    exact absurd h hbackslash
  | @escape c written t _ ih =>
    rw [unescape]
    cases escape? c <;> simp [ih]

end Quotes

theorem splitValue?_of_unquoted {t : Text}
    (hopening : ∀ c, (t.dropWhile isSpacing).head? = some c → c ≠ '\'' ∧ c ≠ '"') :
    splitValue? t =
      some (trim (beforeComment (t.takeWhile (· != '\n'))), t.dropWhile (· != '\n')) := by
  unfold splitValue?
  split
  · next heq => exact absurd rfl (hopening _ (congrArg List.head? heq)).1
  · next heq => exact absurd rfl (hopening _ (congrArg List.head? heq)).2
  · rfl

/-- A value without quotes does not open with one. -/
theorem head?_dropWhile_plain {lead value tail after : Text} (hlead : Blank lead)
    (hvalue : Trimmed value) (hopening : ∀ c, value.head? = some c → c ≠ '\'' ∧ c ≠ '"')
    (htail : IsRemark tail) (hline : OneLine (lead ++ value ++ tail)) (hafter : FollowsLine after)
    {c : Char} (hc : ((lead ++ value ++ tail ++ after).dropWhile isSpacing).head? = some c) :
    c ≠ '\'' ∧ c ≠ '"' := by
  cases value with
  | nil =>
    rw [List.append_nil] at hline hc
    rcases hafter.dropWhile_remark (htail.append hlead) hline with hdrop | ⟨remark, -, hdrop⟩
    · rw [hdrop] at hc
      obtain rfl := hafter.head?_ne hc
      decide
    · rw [hdrop] at hc
      obtain rfl := Option.some.inj hc
      decide
  | cons d rest =>
    have hspacing := isSpacing_of_blank hlead (oneLine_append.1 (oneLine_append.1 hline).1).1
    have hd : isSpacing d = false := by simp [isSpacing, hvalue.1 d rfl]
    have hrun := span_append (u := d :: (rest ++ tail ++ after)) hspacing
      fun e he => Option.some.inj he ▸ hd
    have hsplit : lead ++ d :: rest ++ tail ++ after = lead ++ d :: (rest ++ tail ++ after) := by
      simp
    rw [hsplit, hrun.2] at hc
    exact hopening c hc

/-- A value is read as it is meant, and nothing but a remark is left of its line. -/
theorem splitValue?_append {written value after : Text} (h : WritesValue written value)
    (hline : OneLine written) (hafter : FollowsLine after) :
    ∃ tail, IsRemark tail ∧ OneLine tail ∧
      splitValue? (written ++ after) = some (value, tail ++ after) := by
  cases h with
  | @plain lead value tail hlead hvalue hopening hinside htail hspace =>
    have hrun := span_append (p := (· != '\n')) (u := after)
      (fun c hc => by simpa using ne_lf_of_oneLine hline hc)
      fun c hc => by simp [hafter.head?_ne hc]
    refine ⟨[], .blank (by simp [Blank]), by simp [OneLine], ?_⟩
    rw [splitValue?_of_unquoted fun c hc =>
      head?_dropWhile_plain hlead hvalue hopening htail hline hafter hc, hrun.1, hrun.2,
      trim_beforeComment hlead hvalue hinside htail hspace]
    rfl
  | @single lead inside value tail hlead hquotes htail =>
    rw [oneLine_append, oneLine_cons, oneLine_append, oneLine_cons] at hline
    have hrun := span_append (u := '\'' :: (inside ++ '\'' :: (tail ++ after)))
      (isSpacing_of_blank hlead hline.1) fun c hc => Option.some.inj hc ▸ by decide
    refine ⟨tail, htail, hline.2.2.2.2, ?_⟩
    simp only [List.append_assoc, List.cons_append]
    rw [splitValue?, hrun.2]
    simp only [hquotes.splitQuoted_append (by decide), Option.map_some, hquotes.unescape_eq]
  | @double lead inside value tail hlead hquotes htail =>
    rw [oneLine_append, oneLine_cons, oneLine_append, oneLine_cons] at hline
    have hrun := span_append (u := '"' :: (inside ++ '"' :: (tail ++ after)))
      (isSpacing_of_blank hlead hline.1) fun c hc => Option.some.inj hc ▸ by decide
    refine ⟨tail, htail, hline.2.2.2.2, ?_⟩
    simp only [List.append_assoc, List.cons_append]
    rw [splitValue?, hrun.2]
    simp only [hquotes.splitQuoted_append (by decide), Option.map_some, hquotes.unescape_eq]

/-! ## Names -/

theorem endsName_of_blank {c : Char} (hc : isBlank c = true) : endsName c = true := by
  simp [endsName, hc]

theorem splitName?_append {name rest : Text} (h : IsName name)
    (hrest : ∀ c, rest.head? = some c → endsName c = true) :
    splitName? (name ++ rest) = some (name, rest) := by
  have hinside : ∀ c ∈ name, (!endsName c) = true := fun c hc => by simp [h.inside c hc]
  have hrun := span_append (u := rest) hinside fun c hc => by simp [hrest c hc]
  cases name with
  | nil => exact absurd rfl h.ne_nil
  | cons c more =>
    rw [List.cons_append] at hrun ⊢
    rw [splitName?, hrun.1, hrun.2]
    rintro t heq
    exact h.unquoted (congrArg some (List.cons.inj heq).1)

/-- What stands in front of a name does not count. -/
theorem dropExport_word {c : Char} {space name rest : Text} (hspace : Blank (c :: space))
    (hline : OneLine (c :: space)) (hname : IsName name) :
    dropExport ("export".toList ++ c :: space ++ (name ++ rest)) = name ++ rest := by
  have hspacing := isSpacing_of_blank hspace hline
  have hrun := span_append (u := name ++ rest)
    (fun d hd => hspacing d (List.mem_cons_of_mem c hd)) ?_
  · rw [List.append_assoc, dropExport, after?_append]
    simp only [List.cons_append, hspacing c List.mem_cons_self, if_true, hrun.2]
  · intro d hd
    cases name with
    | nil => exact absurd rfl hname.ne_nil
    | cons first more =>
      obtain rfl := Option.some.inj hd
      have hends := hname.inside _ List.mem_cons_self
      simp only [endsName, Bool.or_eq_false_iff] at hends
      simp [isSpacing, hends.2]

theorem endsName_of_head? {gap written : Text} (hgap : Blank gap) {c : Char}
    (hc : (gap ++ '=' :: written).head? = some c) : endsName c = true := by
  cases gap with
  | nil =>
    obtain rfl := Option.some.inj hc
    decide
  | cons d more =>
    obtain rfl := Option.some.inj hc
    exact endsName_of_blank (hgap _ List.mem_cons_self)

/-- A name is not taken for what may stand in front of it. -/
theorem dropExport_name {name gap written : Text} (hname : IsName name) (hgap : Blank gap)
    (hcalled : name = "export".toList → gap = []) :
    dropExport (name ++ (gap ++ '=' :: written)) = name ++ (gap ++ '=' :: written) := by
  unfold dropExport
  split
  · next c rest hafter =>
    rw [after?_eq_some_iff] at hafter
    have hinside : ∀ d ∈ name, (!endsName d) = true := fun d hd => by simp [hname.inside d hd]
    have hrun := span_append (u := gap ++ '=' :: written) hinside
      fun d hd => by simp [endsName_of_head? hgap hd]
    rw [if_neg]
    intro hc
    rw [isSpacing, Bool.and_eq_true] at hc
    -- Up to the white space the text is a name, so that the name is that word.
    have hword := span_append (p := fun d => !endsName d) (t := "export".toList) (u := c :: rest)
      (List.all_eq_true.1 (by decide))
      fun d hd => Option.some.inj hd ▸ by simp [endsName_of_blank hc.1]
    rw [hafter, hword.1, hword.2] at hrun
    rw [hcalled hrun.1.symm] at hrun
    obtain rfl := (List.cons.inj hrun.2).1
    exact absurd hc.1 (by decide)
  · rfl

/-! ## Lines -/

/-- A line with a variable gives it, and leaves what follows the line. -/
theorem splitEntry_append {exported name gap written value after : Text}
    (hexported : IsExport exported) (hname : IsName name) (hgap : Blank gap)
    (hcalled : exported = [] → name = "export".toList → gap = [])
    (hvalue : WritesValue written value)
    (hline : OneLine (exported ++ (name ++ (gap ++ '=' :: written)))) (hafter : FollowsLine after) :
    splitEntry (exported ++ (name ++ (gap ++ '=' :: written)) ++ after) =
      (some (name, some value), after.drop 1) := by
  simp only [oneLine_append, oneLine_cons] at hline
  obtain ⟨hexport, -, hgapLine, -, hwritten⟩ := hline
  have hsplit : exported ++ (name ++ (gap ++ '=' :: written)) ++ after =
      exported ++ (name ++ (gap ++ '=' :: (written ++ after))) := by simp
  have hdrop : dropExport (exported ++ (name ++ (gap ++ '=' :: (written ++ after)))) =
      name ++ (gap ++ '=' :: (written ++ after)) := by
    cases hexported with
    | nothing => exact dropExport_name hname hgap (hcalled rfl)
    | word hspace => exact dropExport_word hspace (oneLine_append.1 hexport).2 hname
  have hgapRun := span_append (u := '=' :: (written ++ after)) (isSpacing_of_blank hgap hgapLine)
    fun c hc => Option.some.inj hc ▸ by decide
  obtain ⟨tail, htail, htailLine, hread⟩ := splitValue?_append hvalue hwritten hafter
  rw [splitEntry, hsplit]
  simp only [hdrop, splitName?_append hname fun c hc => endsName_of_head? hgap hc, hgapRun.2,
    hread, closeEntry, hafter.afterEnd?_append htail htailLine]

theorem splitEntry_comment {remark after : Text} (hline : OneLine remark)
    (hafter : FollowsLine after) :
    splitEntry ('#' :: remark ++ after) = (none, after.drop 1) := by
  have hdrop : dropExport ('#' :: remark ++ after) = '#' :: remark ++ after := rfl
  have hname : splitName? ('#' :: remark ++ after) = none := rfl
  have hskip := hafter.skipLine_append (oneLine_cons.2 ⟨by decide, hline⟩ : OneLine ('#' :: remark))
  rw [splitEntry]
  simp only [hdrop, hname, hskip]

theorem entries_of_trimStart_eq_nil {t : Text} (h : trimStart t = []) : entries t = [] := by
  rw [entries]
  split
  · rfl
  · next heq =>
    rw [h] at heq
    cases heq

theorem entries_of_trimStart_eq_cons {t rest : Text} {c : Char} (h : trimStart t = c :: rest) :
    entries t = (splitEntry (c :: rest)).1.toList ++ entries (splitEntry (c :: rest)).2 := by
  rw [entries]
  split
  · next heq =>
    rw [h] at heq
    cases heq
  · next heq =>
    rw [h] at heq
    cases heq
    rfl

/-- White space in front of an entry does not count. -/
theorem entries_append_of_blank {space : Text} (hspace : Blank space) (t : Text) :
    entries (space ++ t) = entries t := by
  have htrim : trimStart (space ++ t) = trimStart t := List.dropWhile_append_of_pos hspace
  cases ht : trimStart t with
  | nil => rw [entries_of_trimStart_eq_nil ht, entries_of_trimStart_eq_nil (htrim.trans ht)]
  | cons c rest =>
    rw [entries_of_trimStart_eq_cons ht, entries_of_trimStart_eq_cons (htrim.trans ht)]

theorem entries_of_splitEntry {t after : Text} {e? : Option Entry}
    (hhead : ∃ c, t.head? = some c ∧ isBlank c = false) (h : splitEntry t = (e?, after)) :
    entries t = e?.toList ++ entries after := by
  obtain ⟨c, hc, hblank⟩ := hhead
  have htrim : trimStart t = t :=
    trimStart_eq_self fun d hd => Option.some.inj (hc.symm.trans hd) ▸ hblank
  cases t with
  | nil => cases hc
  | cons d rest => rw [entries_of_trimStart_eq_cons htrim, h]

/-- After a line the next one is read, or nothing. -/
theorem FollowsLine.entries_drop {after : Text} (h : FollowsLine after) :
    entries (after.drop 1) = entries after := by
  cases h with
  | nothing => rfl
  | further rest => exact (@entries_append_of_blank ['\n'] blank_lf rest).symm

theorem head?_isBlank {exported name t : Text} (hexported : IsExport exported)
    (hname : IsName name) : ∃ c, (exported ++ (name ++ t)).head? = some c ∧ isBlank c = false := by
  cases hexported with
  | word => exact ⟨'e', rfl, by decide⟩
  | nothing =>
    cases name with
    | nil => exact absurd rfl hname.ne_nil
    | cons c rest =>
      have hends := hname.inside c List.mem_cons_self
      simp only [endsName, Bool.or_eq_false_iff] at hends
      exact ⟨c, rfl, hends.2⟩

/-- A line gives what it says, and then what follows it is read. -/
theorem Tells.entries_append {line : Text} {es : List Entry} (h : Tells line es)
    (hline : OneLine line) {after : Text} (hafter : FollowsLine after) :
    entries (line ++ after) = es ++ entries after := by
  cases h with
  | blank hblank => exact entries_append_of_blank hblank after
  | @comment indent hindent remark =>
    rw [oneLine_append, oneLine_cons] at hline
    rw [List.append_assoc, entries_append_of_blank hindent, List.nil_append,
      entries_of_splitEntry ⟨'#', rfl, by decide⟩ (splitEntry_comment hline.2.2 hafter),
      hafter.entries_drop]
    rfl
  | @assigns indent exported name gap written value hindent hexported hname hgap hcalled hvalue =>
    rw [oneLine_append] at hline
    have hentry := splitEntry_append hexported hname hgap hcalled hvalue hline.2 hafter
    have hhead := head?_isBlank (t := gap ++ '=' :: written ++ after) hexported hname
    have hsplit : exported ++ (name ++ (gap ++ '=' :: written)) ++ after =
        exported ++ (name ++ (gap ++ '=' :: written ++ after)) := by simp
    rw [hsplit] at hentry
    rw [List.append_assoc, hsplit, entries_append_of_blank hindent,
      entries_of_splitEntry hhead hentry, hafter.entries_drop]
    rfl

theorem entries_joinWith {ls : List Text} {told : List (List Entry)}
    (h : List.Forall₂ Tells ls told) (hlines : ∀ line ∈ ls, OneLine line) :
    entries (joinWith ['\n'] ls) = told.flatten := by
  induction h with
  | nil => exact entries_of_trimStart_eq_nil rfl
  | @cons line es rest more hline hrest ih =>
    obtain ⟨hone, hothers⟩ := List.forall_mem_cons.1 hlines
    have hmore := ih hothers
    rw [List.flatten_cons, ← hmore]
    cases hrest with
    | nil =>
      have hlast := hline.entries_append hone .nothing
      rw [List.append_nil] at hlast
      simpa [joinWith] using hlast
    | @cons second _ others _ _ _ =>
      rw [joinWith_cons_cons, List.singleton_append, hline.entries_append hone (.further _)]
      congr 1
      exact @entries_append_of_blank ['\n'] blank_lf _

/-- A file whose lines are blank, comments, or variables with their values gives these variables in
order, whatever ends its lines. -/
theorem entries_of_tells {file : Text} {told : List (List Entry)}
    (h : List.Forall₂ Tells (lines (dropMark file)) told) :
    entries (content file) = told.flatten :=
  entries_joinWith h fun _ => oneLine_of_mem_lines

end VerbDoc.Settings.EnvFile
