import Mathlib.Data.List.Flatten
import VerbDoc.Proofs.Text.Lines
import VerbDoc.Proofs.Text.Trimming
import VerbDoc.Text.Lists

/-!
# Items of a comma-separated list

An item of a comma-separated list is a trimmed text with something in it and no comma. Main
statements: reading gives such items only, reading texts that are listed in one line gives the items
of each of them in turn, and so items that are listed are read back as they are. Of other texts the
line at least tells whether any was left out. Reading is said as a whole by how a list may be
written: a text has certain items exactly if it is one of the ways of writing them.
-/
namespace VerbDoc.Text

/-- A text that a comma-separated list can have as an item. -/
structure IsItem (t : Text) : Prop where
  ne_nil : t ≠ []
  trimmed : Trimmed t
  not_mem_comma : ',' ∉ t

theorem isItem_of_mem_commaItems {t item : Text} (h : item ∈ commaItems t) : IsItem item := by
  obtain ⟨hpiece, hne⟩ := List.mem_filter.1 h
  obtain ⟨piece, hmem, rfl⟩ := List.mem_map.1 hpiece
  refine ⟨by simpa using hne, trimmed_trim piece, ?_⟩
  intro hcomma
  exact not_mem_comma_of_mem_splitCommas hmem (mem_of_mem_trim hcomma)

theorem splitCommas_of_not_mem {t : Text} (h : ',' ∉ t) : splitCommas t = [t] := by
  induction t with
  | nil => rfl
  | cons c rest ih =>
    rw [List.mem_cons, not_or] at h
    have hc : c ≠ ',' := fun heq => h.1 heq.symm
    rw [splitCommas, if_neg hc, ih h.2]

/-- An item alone is a list of itself. -/
theorem IsItem.commaItems_eq {item : Text} (h : IsItem item) : commaItems item = [item] := by
  simp [commaItems, splitCommas_of_not_mem h.not_mem_comma, trim_eq_self h.trimmed, h.ne_nil]

/-- White space in front of a list does not belong to its first item. -/
theorem commaItems_cons_of_blank {c : Char} (hc : isBlank c = true) (t : Text) :
    commaItems (c :: t) = commaItems t := by
  have hcomma : c ≠ ',' := by
    rintro rfl
    exact absurd hc (by decide)
  unfold commaItems
  rw [splitCommas, if_neg hcomma]
  cases hsplit : splitCommas t with
  | nil => exact absurd hsplit (splitCommas_ne_nil t)
  | cons piece more => simp only [List.map_cons, trim_cons_of_blank hc]

/-- Texts that are listed in one line give the items of each of them in turn. -/
theorem commaItems_listed (ts : List Text) : commaItems (listed ts) = ts.flatMap commaItems := by
  induction ts with
  | nil => rfl
  | cons t rest ih =>
    cases rest with
    | nil => simp [listed, joinWith]
    | cons second more =>
      have hline : listed (t :: second :: more) = t ++ ',' :: ' ' :: listed (second :: more) :=
        joinWith_cons_cons _ t second more
      rw [hline, commaItems_append, commaItems_cons_of_blank (by decide), ih]
      rfl

/-- Items that are listed in one line are read back. -/
theorem commaItems_listed_of_isItem {items : List Text} (h : ∀ item ∈ items, IsItem item) :
    commaItems (listed items) = items := by
  rw [commaItems_listed]
  induction items with
  | nil => rfl
  | cons item rest ih =>
    rw [List.flatMap_cons, (h item (by simp)).commaItems_eq,
      ih fun other hother => h other (by simp [hother])]
    rfl

/-! ## Texts that are left out of a line -/

def separated (ts : List Text) : Text := ts.flatMap fun t => ',' :: ' ' :: t

theorem separated_cons (t : Text) (rest : List Text) :
    separated (t :: rest) = ',' :: ' ' :: t ++ separated rest :=
  List.flatMap_cons

/-- A line has a comma and a space in front of each text but the first. -/
theorem separated_eq {ts : List Text} (h : ts ≠ []) :
    separated ts = ',' :: ' ' :: listed ts := by
  induction ts with
  | nil => exact absurd rfl h
  | cons t rest ih =>
    cases rest with
    | nil => simp [separated, listed, joinWith]
    | cons second more =>
      have hline : listed (t :: second :: more) = t ++ ',' :: ' ' :: listed (second :: more) :=
        joinWith_cons_cons _ t second more
      rw [separated_cons, ih (by simp), hline]
      rfl

theorem eq_of_separated_eq {kept all : List Text} (h : kept.Sublist all)
    (hseparated : separated kept = separated all) : kept = all := by
  have hlength := congrArg List.length hseparated
  clear hseparated
  induction h with
  | slnil => rfl
  | cons t hrest _ =>
    have hle := (hrest.flatMap fun t => ',' :: ' ' :: t).length_le
    rw [← separated, ← separated] at hle
    simp only [separated_cons, List.length_append, List.length_cons] at hlength
    omega
  | cons_cons t _ ih =>
    simp only [separated_cons, List.length_append, Nat.add_left_cancel_iff] at hlength
    rw [ih hlength]

/-- A line is shorter where a text is left out, unless an empty one was all there was. -/
theorem eq_of_listed_eq {kept all : List Text} (h : kept.Sublist all)
    (hempty : kept = [] → ∀ t ∈ all, t ≠ []) (hline : listed kept = listed all) : kept = all := by
  by_cases hall : all = []
  · subst hall
    exact List.sublist_nil.1 h
  · by_cases hkept : kept = []
    · -- What is left of a line without texts is empty, and so is the line of an empty text.
      subst hkept
      obtain ⟨t, rest, rfl⟩ := List.exists_cons_of_ne_nil hall
      have hseparated := separated_eq hall
      rw [← hline, separated_cons] at hseparated
      have hlength := congrArg List.length hseparated
      have ht : 0 < t.length := List.length_pos_iff.2 (hempty rfl t (by simp))
      change (',' :: ' ' :: t ++ separated rest).length = 2 at hlength
      simp only [List.cons_append, List.length_append, List.length_cons] at hlength
      omega
    · apply eq_of_separated_eq h
      rw [separated_eq hkept, separated_eq hall, hline]

/-! ## Ways of writing a list -/

/-- What stands between the commas of a text that lists these items: each piece is blank, or it is
the next item with white space around it. -/
inductive Writes : List Text → List Text → Prop where
  | nil : Writes [] []
  | blank {pieces items : List Text} {piece : Text} (hpiece : Blank piece)
    (hrest : Writes pieces items) : Writes (piece :: pieces) items
  | item {pieces items : List Text} {lead item tail : Text} (hlead : Blank lead)
    (hitem : IsItem item) (htail : Blank tail) (hrest : Writes pieces items) :
    Writes ((lead ++ item ++ tail) :: pieces) (item :: items)

def pieceItems (pieces : List Text) : List Text :=
  (pieces.map trim).filter fun item => !item.isEmpty

theorem not_mem_comma_of_blank {t : Text} (ht : Blank t) : ',' ∉ t :=
  fun hcomma => absurd (ht _ hcomma) (by decide)

namespace Writes

variable {pieces items : List Text}

theorem not_mem_comma (h : Writes pieces items) : ∀ piece ∈ pieces, ',' ∉ piece := by
  induction h with
  | nil => simp
  | blank hpiece _ ih => exact List.forall_mem_cons.2 ⟨not_mem_comma_of_blank hpiece, ih⟩
  | item hlead hitem htail _ ih =>
    refine List.forall_mem_cons.2 ⟨?_, ih⟩
    simp [not_mem_comma_of_blank hlead, hitem.not_mem_comma, not_mem_comma_of_blank htail]

theorem pieceItems_eq (h : Writes pieces items) : pieceItems pieces = items := by
  unfold pieceItems
  induction h with
  | nil => rfl
  | blank hpiece _ ih =>
    rw [List.map_cons, trim_eq_nil_iff.2 hpiece]
    exact ih
  | item hlead hitem htail _ ih =>
    rw [List.map_cons, trim_append_append hlead hitem.trimmed htail,
      List.filter_cons_of_pos (by simp [hitem.ne_nil]), ih]

/-- Whatever stands between commas is a way of writing the items that it stands for. -/
theorem of_pieces (hpieces : ∀ piece ∈ pieces, ',' ∉ piece) :
    Writes pieces (pieceItems pieces) := by
  induction pieces with
  | nil => exact .nil
  | cons piece rest ih =>
    obtain ⟨hpiece, hrest⟩ := List.forall_mem_cons.1 hpieces
    by_cases hblank : Blank piece
    · have hitems : pieceItems (piece :: rest) = pieceItems rest := by
        simp [pieceItems, trim_eq_nil_iff.2 hblank]
      rw [hitems]
      exact .blank hblank (ih hrest)
    · have hne : trim piece ≠ [] := fun hnil => hblank (trim_eq_nil_iff.1 hnil)
      have hitems : pieceItems (piece :: rest) = trim piece :: pieceItems rest := by
        simp [pieceItems, hne]
      obtain ⟨lead, tail, hsplit, hlead, htail⟩ := exists_trim_append piece
      have hitem : IsItem (trim piece) :=
        ⟨hne, trimmed_trim piece, fun hcomma => hpiece (mem_of_mem_trim hcomma)⟩
      rw [hitems]
      conv => lhs; rw [hsplit]
      exact .item hlead hitem htail (ih hrest)

end Writes

theorem splitCommas_joinWith {pieces : List Text} (hne : pieces ≠ [])
    (hpieces : ∀ piece ∈ pieces, ',' ∉ piece) : splitCommas (joinWith [','] pieces) = pieces := by
  induction pieces with
  | nil => exact absurd rfl hne
  | cons first rest ih =>
    obtain ⟨hfirst, hrest⟩ := List.forall_mem_cons.1 hpieces
    cases rest with
    | nil => simpa [joinWith] using splitCommas_of_not_mem hfirst
    | cons second more =>
      rw [joinWith_cons_cons, List.singleton_append, splitCommas_append,
        splitCommas_of_not_mem hfirst, ih (by simp) hrest, List.singleton_append]

theorem joinWith_splitCommas (t : Text) : joinWith [','] (splitCommas t) = t := by
  induction t with
  | nil => rfl
  | cons c rest ih =>
    rw [splitCommas]
    cases hsplit : splitCommas rest with
    | nil => exact absurd hsplit (splitCommas_ne_nil rest)
    | cons piece more =>
      rw [hsplit] at ih
      split
      · next hc => rw [joinWith_cons_cons, ih, hc]; rfl
      · cases more with
        | nil => rw [← ih]; simp [joinWith]
        | cons second others =>
          rw [← ih, joinWith_cons_cons, joinWith_cons_cons]
          rfl

/-- The items of a text are those that it writes, one way or another. -/
theorem commaItems_eq_iff {t : Text} {items : List Text} :
    commaItems t = items ↔ ∃ pieces, Writes pieces items ∧ t = joinWith [','] pieces := by
  constructor
  · rintro rfl
    exact ⟨splitCommas t, .of_pieces fun _ => not_mem_comma_of_mem_splitCommas,
      (joinWith_splitCommas t).symm⟩
  · rintro ⟨pieces, hwrites, rfl⟩
    by_cases hne : pieces = []
    · subst hne
      cases hwrites
      rfl
    · rw [commaItems, splitCommas_joinWith hne hwrites.not_mem_comma]
      exact hwrites.pieceItems_eq

/-- Items, each on its own between two commas, are one way of writing them. -/
theorem writes_self {items : List Text} (hitems : ∀ item ∈ items, IsItem item) :
    Writes items items := by
  induction items with
  | nil => exact .nil
  | cons item rest ih =>
    obtain ⟨hitem, hrest⟩ := List.forall_mem_cons.1 hitems
    simpa using @Writes.item rest rest [] item [] blank_nil hitem blank_nil (ih hrest)

/-- Lists may be put behind one another with a comma between them, their items are as items are, and
a text has certain items exactly if it writes them: with commas between them, any white space around
them, and blank pieces anywhere. So items that are written again are read again. -/
theorem commaItems_format :
    (∀ a b, commaItems (a ++ ',' :: b) = commaItems a ++ commaItems b) ∧
    (∀ t, ∀ item ∈ commaItems t, IsItem item) ∧
    (∀ t items, commaItems t = items ↔
      ∃ pieces, Writes pieces items ∧ t = joinWith [','] pieces) ∧
    ∀ t, commaItems (joinWith [','] (commaItems t)) = commaItems t ∧
      commaItems (listed (commaItems t)) = commaItems t := by
  refine ⟨commaItems_append, fun _ _ => isItem_of_mem_commaItems, fun _ _ => commaItems_eq_iff, ?_⟩
  intro t
  have hitems : ∀ item ∈ commaItems t, IsItem item := fun _ => isItem_of_mem_commaItems
  exact ⟨commaItems_eq_iff.2 ⟨_, writes_self hitems, rfl⟩, commaItems_listed_of_isItem hitems⟩

end VerbDoc.Text
