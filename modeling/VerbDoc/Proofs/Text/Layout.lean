import Mathlib.Data.List.Chain
import VerbDoc.Proofs.Text.Lines

/-!
# Lines and the endings between them

A text can be taken apart into lines and the endings between them. The pair CR LF is one ending, so
that a CR and an LF are two endings only if there is something in the line between them. Main
statements: the lines of a layout are the lines of its text, and each text has exactly one layout.
-/
namespace VerbDoc.Text

/-- A line after the first one, with the ending in front of it. -/
structure LaidLine where
  ending : LineEnding
  line : Text
  deriving DecidableEq, Repr

namespace LaidLine

/-- The ending and the line as they are written. -/
def text (l : LaidLine) : Text := l.ending.text ++ l.line

/-- A CR, an empty line and an LF, which would be written like the pair CR LF. -/
def Merges (l next : LaidLine) : Prop := l.ending = .cr ∧ l.line = [] ∧ next.ending = .lf

end LaidLine

/-- Lines and the endings between them. -/
structure Layout where
  first : Text
  more : List LaidLine
  oneLine_first : OneLine first
  oneLine_more : ∀ l ∈ more, OneLine l.line
  /-- Neighbouring endings do not merge. -/
  isChain : more.IsChain fun l next => ¬l.Merges next

namespace Layout

@[ext] theorem ext {d d' : Layout} (hfirst : d.first = d'.first) (hmore : d.more = d'.more) :
    d = d' := by
  cases d
  cases d'
  simp_all

def lines (d : Layout) : List Text := d.first :: d.more.map LaidLine.line

def text (d : Layout) : Text := d.first ++ d.more.flatMap LaidLine.text

theorem oneLine_of_mem_lines (d : Layout) : ∀ line ∈ d.lines, OneLine line := by
  intro line hline
  rcases List.mem_cons.1 hline with rfl | hline
  · exact d.oneLine_first
  · obtain ⟨l, hl, rfl⟩ := List.mem_map.1 hline
    exact d.oneLine_more l hl

end Layout

/-! ## The lines of a layout -/

theorem head?_ending_append (ending : LineEnding) (rest : Text) :
    (ending.text ++ rest).head? = some '\n' ↔ ending = .lf := by
  cases ending <;> simp [LineEnding.text]

/-- No LF is next to a CR that is an ending of its own. -/
theorem head?_after_cr {l : LaidLine} {rest : List LaidLine} (hline : OneLine l.line)
    (hchain : (l :: rest).IsChain fun l next => ¬l.Merges next) (hcr : l.ending = .cr) :
    (l.line ++ rest.flatMap LaidLine.text).head? ≠ some '\n' := by
  cases htext : l.line with
  | cons c more =>
    have hhead := head?_ne_lf_of_oneLine hline
    rw [htext] at hhead
    exact hhead
  | nil =>
    cases rest with
    | nil => simp
    | cons next others =>
      have hnext : ¬l.Merges next := (List.isChain_cons_cons.1 hchain).1
      rw [List.nil_append, List.flatMap_cons, LaidLine.text, List.append_assoc,
        ne_eq, head?_ending_append]
      exact fun hlf => hnext ⟨hcr, htext, hlf⟩

theorem lines_append_laid {first : Text} {more : List LaidLine} (hfirst : OneLine first)
    (hmore : ∀ l ∈ more, OneLine l.line)
    (hchain : more.IsChain fun l next => ¬l.Merges next) :
    lines (first ++ more.flatMap LaidLine.text) = first :: more.map LaidLine.line := by
  induction more generalizing first with
  | nil => simpa using lines_of_oneLine hfirst
  | cons l rest ih =>
    have hline : OneLine l.line := hmore l (by simp)
    have hrest := ih hline (fun l' hl' => hmore l' (by simp [hl'])) hchain.of_cons
    have hending := lines_ending_append (head?_after_cr hline hchain)
    rw [hrest, ← List.append_assoc] at hending
    rw [List.flatMap_cons, LaidLine.text, lines_append_of_oneLine hfirst hending, List.append_nil]
    rfl

/-- The lines of a layout are the lines of its text. -/
theorem Layout.lines_text (d : Layout) : Text.lines d.text = d.lines :=
  lines_append_laid d.oneLine_first d.oneLine_more d.isChain

namespace Layout

def uniform (ending : LineEnding) (first : Text) (rest : List Text)
    (h : ∀ line ∈ first :: rest, OneLine line) : Layout where
  first := first
  more := rest.map (LaidLine.mk ending)
  oneLine_first := h first (by simp)
  oneLine_more := by
    intro l hl
    obtain ⟨line, hline, rfl⟩ := List.mem_map.1 hl
    exact h line (by simp [hline])
  isChain := by
    rw [List.isChain_map, List.isChain_iff_getElem]
    rintro i _ ⟨hcr, -, hlf⟩
    cases hcr.symm.trans hlf

theorem text_uniform (ending : LineEnding) (first : Text) (rest : List Text)
    (h : ∀ line ∈ first :: rest, OneLine line) :
    (uniform ending first rest h).text = joinWith ending.text (first :: rest) := by
  show first ++ (rest.map (LaidLine.mk ending)).flatMap LaidLine.text = _
  clear h
  induction rest generalizing first with
  | nil => simp [joinWith]
  | cons second more ih =>
    rw [joinWith_cons_cons, ← ih second, List.map_cons, List.flatMap_cons, LaidLine.text,
      List.append_assoc]

end Layout

/-- Lines are read as they were written, whichever ending is used. -/
theorem lines_joinWith (ending : LineEnding) {parts : List Text} (hparts : parts ≠ [])
    (hlines : ∀ part ∈ parts, OneLine part) : lines (joinWith ending.text parts) = parts := by
  cases parts with
  | nil => exact absurd rfl hparts
  | cons first rest =>
    rw [← Layout.text_uniform ending first rest hlines, Layout.lines_text]
    simp [Layout.lines, Layout.uniform, Function.comp_def]

/-! ## The layout of a text -/

/-- What stands in front of a text tells its ending, unless the text splits a pair CR LF. -/
theorem ending_eq_of_append_eq {ending ending' : LineEnding} {rest rest' : Text}
    (h : ending.text ++ rest = ending'.text ++ rest')
    (hrest : ending = .cr → rest.head? ≠ some '\n')
    (hrest' : ending' = .cr → rest'.head? ≠ some '\n') : ending = ending' := by
  have hpair : ∀ {s s' : Text}, LineEnding.cr.text ++ s = LineEnding.crLf.text ++ s' →
      s.head? = some '\n' := by
    intro s s' hs
    have hrest : s = '\n' :: s' := (List.cons.inj hs).2
    rw [hrest, List.head?_cons]
  match ending, ending' with
  | .lf, .lf | .cr, .cr | .crLf, .crLf => rfl
  | .lf, .cr | .lf, .crLf | .cr, .lf | .crLf, .lf => simp [LineEnding.text] at h
  | .cr, .crLf => exact absurd (hpair h) (hrest rfl)
  | .crLf, .cr => exact absurd (hpair h.symm) (hrest' rfl)

theorem laid_eq_of_text_eq {more more' : List LaidLine}
    (hmore : ∀ l ∈ more, OneLine l.line) (hmore' : ∀ l ∈ more', OneLine l.line)
    (hchain : more.IsChain fun l next => ¬l.Merges next)
    (hchain' : more'.IsChain fun l next => ¬l.Merges next)
    (hlines : more.map LaidLine.line = more'.map LaidLine.line)
    (htext : more.flatMap LaidLine.text = more'.flatMap LaidLine.text) : more = more' := by
  induction more generalizing more' with
  | nil => simpa using hlines.symm
  | cons l rest ih =>
    cases more' with
    | nil => simp at hlines
    | cons l' rest' =>
      obtain ⟨hline, hrest⟩ := List.cons.inj hlines
      simp only [List.flatMap_cons, LaidLine.text, List.append_assoc] at htext
      have hending : l.ending = l'.ending :=
        ending_eq_of_append_eq htext (head?_after_cr (hmore l (by simp)) hchain)
          (head?_after_cr (hmore' l' (by simp)) hchain')
      rw [hending, hline, List.append_cancel_left_eq, List.append_cancel_left_eq] at htext
      have hsame : l = l' := by
        cases l
        cases l'
        simp_all
      rw [hsame, ih (fun k hk => hmore k (by simp [hk])) (fun k hk => hmore' k (by simp [hk]))
        hchain.of_cons hchain'.of_cons hrest htext]

theorem Layout.eq_of_text_eq {d d' : Layout} (h : d.text = d'.text) : d = d' := by
  have hlines : d.lines = d'.lines := by rw [← lines_text, ← lines_text, h]
  obtain ⟨hfirst, hmore⟩ := List.cons.inj hlines
  have htext : d.more.flatMap LaidLine.text = d'.more.flatMap LaidLine.text := by
    rw [text, text, hfirst] at h
    exact List.append_cancel_left h
  exact Layout.ext hfirst
    (laid_eq_of_text_eq d.oneLine_more d'.oneLine_more d.isChain d'.isChain hmore htext)

namespace Layout

/-- An empty line and an ending in front of a layout. -/
def precede (ending : LineEnding) (d : Layout) (h : ending = .cr → d.text.head? ≠ some '\n') :
    Layout where
  first := []
  more := ⟨ending, d.first⟩ :: d.more
  oneLine_first := by simp [OneLine]
  oneLine_more := by
    intro l hl
    rcases List.mem_cons.1 hl with rfl | hl
    · exact d.oneLine_first
    · exact d.oneLine_more l hl
  isChain := by
    rw [List.isChain_cons]
    refine ⟨?_, d.isChain⟩
    rintro next hnext ⟨hcr, hempty, hlf⟩
    obtain ⟨rest, hmore⟩ := List.head?_eq_some_iff.1 hnext
    simp only at hcr hempty
    apply h hcr
    rw [text, hempty, hmore, List.nil_append, List.flatMap_cons, LaidLine.text, List.append_assoc,
      head?_ending_append]
    exact hlf

theorem text_precede (ending : LineEnding) (d : Layout)
    (h : ending = .cr → d.text.head? ≠ some '\n') :
    (d.precede ending h).text = ending.text ++ d.text := by
  simp [precede, text, LaidLine.text]

/-- Each text has a layout. -/
theorem exists_text_eq (t : Text) : ∃ d : Layout, d.text = t := by
  fun_induction Text.lines t with
  | case1 => exact ⟨⟨[], [], by simp [OneLine], by simp, .nil⟩, rfl⟩
  | case2 rest ih =>
    obtain ⟨d, rfl⟩ := ih
    exact ⟨d.precede .crLf (by simp), text_precede _ _ _⟩
  | case3 rest hlf ih =>
    obtain ⟨d, rfl⟩ := ih
    have hhead : d.text.head? ≠ some '\n' := by
      intro hhead
      obtain ⟨more, hmore⟩ := List.head?_eq_some_iff.1 hhead
      exact hlf more hmore
    exact ⟨d.precede .cr fun _ => hhead, text_precede _ _ _⟩
  | case4 rest ih =>
    obtain ⟨d, rfl⟩ := ih
    exact ⟨d.precede .lf (by simp), text_precede _ _ _⟩
  | case5 c rest _ hcr hlf ih =>
    obtain ⟨d, rfl⟩ := ih
    have hc : isLineEnd c = false := isLineEnd_eq_false hcr hlf
    refine ⟨⟨c :: d.first, d.more, ?_, d.oneLine_more, d.isChain⟩, rfl⟩
    intro e he
    rcases List.mem_cons.1 he with rfl | he
    · exact hc
    · exact d.oneLine_first e he

/-- Each text has exactly one layout. -/
theorem existsUnique_text_eq (t : Text) : ∃! d : Layout, d.text = t := by
  obtain ⟨d, rfl⟩ := exists_text_eq t
  exact ⟨d, rfl, fun d' hd' => eq_of_text_eq hd'⟩

end Layout
end VerbDoc.Text
