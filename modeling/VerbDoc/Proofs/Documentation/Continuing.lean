import VerbDoc.Proofs.Documentation.Concatenation

/-!
# Lines that go on with documentation

Documentation may hold anything when lines are merged into it: empty texts, values without texts
and values with one text in a list, which no reading of a text gives. The texts that are there count
as pieces that begin groups of their own, and the pieces of the lines follow them. Main statement:
the texts of a key after any lines are those of the groups, where an empty text takes no part, and
the value is a single text as long as no fresh line meets it.
-/
namespace VerbDoc

namespace Piece

/-- A text that is there already, as the piece that begins its group. -/
def begun (text : Text) : Piece := ⟨text, true⟩

/-- The groups with one more text in the last one, which is begun if there is none. -/
def joinLast (text : Text) : List (List Text) → List (List Text)
  | [] => [[text]]
  | [group] => [group ++ [text]]
  | group :: second :: rest => group :: joinLast text (second :: rest)

theorem groups_concat_of_fresh (ps : List Piece) {p : Piece} (hp : p.fresh = true) :
    groups (ps ++ [p]) = groups ps ++ [[p.text]] := by
  rw [groups_append (by simpa using hp)]
  rfl

/-- A piece that is not fresh joins the last group, whatever texts are in that already. -/
theorem joinLast_leading (ps : List Piece) {p : Piece} (hp : p.fresh = false) (group : List Text) :
    (group ++ leading (ps ++ [p])) :: freshGroups (ps ++ [p]) =
      joinLast p.text ((group ++ leading ps) :: freshGroups ps) := by
  -- A fresh piece closes the group, and the rest is about the one that it begins.
  induction ps generalizing group with
  | nil => simp [leading, freshGroups, joinLast, hp]
  | cons q rest ih =>
    rw [List.cons_append, leading_cons, leading_cons, freshGroups, freshGroups]
    cases hq : q.fresh with
    | true =>
      have hrest := ih [q.text]
      simp only [List.singleton_append] at hrest
      simp [joinLast, hrest]
    | false =>
      have hrest := ih (group ++ [q.text])
      simp only [List.append_assoc, List.singleton_append] at hrest
      simpa using hrest

theorem groups_concat_of_not_fresh (ps : List Piece) {p : Piece} (hp : p.fresh = false) :
    groups (ps ++ [p]) = joinLast p.text (groups ps) := by
  cases ps with
  | nil => rfl
  | cons first rest => exact joinLast_leading rest hp [first.text]

theorem groups_begun (texts : List Text) : groups (texts.map begun) = texts.map fun t => [t] := by
  induction texts with
  | nil => rfl
  | cons text rest ih =>
    have hrest : ∀ q ∈ (rest.map begun).head?, q.fresh = true := by
      intro q hq
      obtain ⟨other, -, rfl⟩ := List.mem_map.1 (List.mem_of_mem_head? hq)
      rfl
    have happend := groups_append hrest [begun text]
    rw [ih] at happend
    exact happend

/-- The last of some texts begins the group that the first pieces join. -/
theorem groups_begun_concat (before : List Text) (last : Text) (ps : List Piece) :
    groups ((before ++ [last]).map begun ++ ps) =
      before.map (fun t => [t]) ++ (last :: leading ps) :: freshGroups ps := by
  have hlast : ∀ q ∈ (begun last :: ps).head?, q.fresh = true := by
    intro q hq
    rw [List.head?_cons, Option.mem_some_iff] at hq
    rw [← hq]
    rfl
  rw [List.map_append, List.append_assoc, List.map_singleton, List.singleton_append,
    groups_append hlast, groups_begun]
  rfl

end Piece

namespace TagValue

/-- The texts of a group that are not empty, with a space between neighbours. -/
def spaced (group : List Text) : Text := joined (group.filter fun text => !text.isEmpty)

theorem spaced_singleton (text : Text) : spaced [text] = text := by
  cases text with
  | nil => rfl
  | cons c rest => simp [spaced, joined, Text.joinWith]

/-- Joining skips empty texts on either side. -/
theorem joinTexts_spaced (group : List Text) (text : Text) :
    joinTexts (spaced group) text = spaced (group ++ [text]) := by
  unfold spaced
  rw [List.filter_append]
  cases text with
  | nil =>
    cases hgroup : joined (group.filter fun text => !text.isEmpty) <;> simp [joinTexts, hgroup]
  | cons c rest =>
    have htext : [c :: rest].filter (fun text : Text => !text.isEmpty) = [c :: rest] := rfl
    rw [htext]
    by_cases hnone : group.filter (fun text : Text => !text.isEmpty) = []
    · rw [hnone]
      simp [joinTexts, joined, Text.joinWith]
    · refine joinTexts_joined hnone ?_ (List.cons_ne_nil c rest)
      intro text htext
      simpa using (List.mem_filter.1 htext).2

/-- The text in front of a group is only extended. -/
theorem exists_spaced_cons (text : Text) (more : List Text) :
    ∃ addition, spaced (text :: more) = text ++ addition := by
  cases text with
  | nil => exact ⟨spaced more, rfl⟩
  | cons c rest =>
    have hfilter : ((c :: rest) :: more).filter (fun text : Text => !text.isEmpty) =
        (c :: rest) :: more.filter fun text => !text.isEmpty := rfl
    rw [spaced, hfilter]
    cases more.filter (fun text : Text => !text.isEmpty) with
    | nil => exact ⟨[], by simp [joined, Text.joinWith]⟩
    | cons second others => exact ⟨' ' :: joined (second :: others), joined_cons_cons _ _ _⟩

theorem extendLast_spaced (text : Text) (groups : List (List Text)) :
    extendLast text (groups.map spaced) = (Piece.joinLast text groups).map spaced := by
  induction groups with
  | nil => exact congrArg (fun t => [t]) (spaced_singleton text).symm
  | cons group rest ih =>
    cases rest with
    | nil => exact congrArg (fun t => [t]) (joinTexts_spaced group text)
    | cons second more => exact congrArg (spaced group :: ·) ih

/-! ## One piece, and then many -/

variable {value : TagValue} {before : List Piece}

/-- One more piece of a value is one more piece of its groups. -/
theorem elements_extendPiece_eq_spaced
    (hvalue : value.elements = (Piece.groups before).map spaced) (p : Piece) :
    (value.extendPiece p).elements = (Piece.groups (before ++ [p])).map spaced := by
  cases hp : p.fresh with
  | true =>
    rw [extendPiece_of_fresh value hp, Piece.groups_concat_of_fresh before hp, List.map_append,
      ← hvalue, List.map_singleton, spaced_singleton]
    rfl
  | false =>
    rw [elements_extendPiece_of_not_fresh value hp, Piece.groups_concat_of_not_fresh before hp,
      hvalue, extendLast_spaced]

/-- The texts of a value are those of its groups after any pieces. -/
theorem elements_foldl_extendPiece (ps : List Piece)
    (hvalue : value.elements = (Piece.groups before).map spaced) :
    (ps.foldl extendPiece value).elements = (Piece.groups (before ++ ps)).map spaced := by
  induction ps generalizing value before with
  | nil => rwa [List.append_nil]
  | cons p rest ih =>
    have hnext := ih (elements_extendPiece_eq_spaced hvalue p)
    rwa [List.append_assoc, List.singleton_append] at hnext

/-- Any texts are those of the groups that they begin. -/
theorem eq_spaced_begun (texts : List Text) :
    texts = (Piece.groups (texts.map Piece.begun)).map spaced := by
  rw [Piece.groups_begun, List.map_map]
  conv_lhs => rw [← List.map_id texts]
  exact List.map_congr_left fun text _ => (spaced_singleton text).symm

/-- A single text, and not a list of texts. -/
def isSingle : TagValue → Bool
  | .single _ => true
  | .many _ => false

theorem isSingle_extendPiece (value : TagValue) (p : Piece) :
    (value.extendPiece p).isSingle = (value.isSingle && !p.fresh) := by
  cases value <;> cases hp : p.fresh <;> simp [extendPiece, isSingle, hp]

/-- A value stays a single text as long as no piece is fresh. -/
theorem isSingle_foldl_extendPiece (ps : List Piece) (value : TagValue) :
    (ps.foldl extendPiece value).isSingle = (value.isSingle && ps.all fun p => !p.fresh) := by
  induction ps generalizing value with
  | nil => simp
  | cons p rest ih => rw [List.foldl_cons, ih, isSingle_extendPiece, List.all_cons, Bool.and_assoc]

/-- What pieces make of a key: the first one is its value if it has none. -/
def afterPieces : Option TagValue → List Piece → Option TagValue
  | some value, ps => some (ps.foldl extendPiece value)
  | none, [] => none
  | none, p :: rest => some (rest.foldl extendPiece (.single p.text))

/-- A key without a value gets one from the first of its lines with a token. -/
theorem foldl_after_none (ts : List TagLine) :
    ts.foldl after none =
      afterPieces none ((ts.dropWhile fun t => t.token.isEmpty).map TagLine.piece) := by
  induction ts with
  | nil => rfl
  | cons t rest ih =>
    cases htoken : t.token.isEmpty with
    | true =>
      have hskip : after none t = none := by simp [after, htoken]
      rw [List.foldl_cons, hskip, ih,
        List.dropWhile_cons_of_pos (p := fun t : TagLine => t.token.isEmpty) htoken]
    | false =>
      have hfirst : after none t = some (.single t.piece.text) := by simp [after, htoken]
      rw [List.foldl_cons, hfirst, foldl_after_some, List.dropWhile_cons, htoken]
      rfl

/-- The texts of a key after pieces are those of the groups of its texts and the pieces. -/
theorem texts_afterPieces (value : Option TagValue) (ps : List Piece) :
    (afterPieces value ps).elim [] elements =
      (Piece.groups ((value.elim [] elements).map Piece.begun ++ ps)).map spaced := by
  cases value with
  | some value => exact elements_foldl_extendPiece ps (eq_spaced_begun value.elements)
  | none =>
    cases ps with
    | nil => rfl
    | cons p rest =>
      have hfirst : (single p.text).elements = (Piece.groups [p]).map spaced :=
        congrArg (fun t => [t]) (spaced_singleton p.text).symm
      exact elements_foldl_extendPiece rest hfirst

end TagValue

namespace Documentation

/-- What lines add to a key. Until the key is there, its lines without a token add nothing. -/
def addedPieces (doc : Documentation) (ts : List TagLine) (key : Text) : List Piece :=
  let own := ts.filter fun t => t.key = key
  let counting := if doc.contains key then own else own.dropWhile fun t => t.token.isEmpty
  counting.map TagLine.piece

/-- What lines add to a key once it has a value, which the first piece gives it if nothing else
does. -/
def laterPieces (doc : Documentation) (ts : List TagLine) (key : Text) : List Piece :=
  if doc.contains key then addedPieces doc ts key else (addedPieces doc ts key).tail

/-- What lines make of a key of any documentation. -/
structure Continues (doc : Documentation) (ts : List TagLine) (key : Text) : Prop where
  texts : (mergeAll doc ts).textsOf key =
    (Piece.groups ((doc.textsOf key).map Piece.begun ++ addedPieces doc ts key)).map
      TagValue.spaced
  /-- All texts but the last one are kept, and the last one is only extended. -/
  extends_last : ∀ before last, doc.textsOf key = before ++ [last] →
    ∃ addition rest, (mergeAll doc ts).textsOf key = before ++ (last ++ addition) :: rest
  contains : (mergeAll doc ts).contains key = true ↔
    doc.contains key = true ∨ addedPieces doc ts key ≠ []
  single : ∀ value, (mergeAll doc ts).get? key = some value →
    (value.isSingle = true ↔ (∀ old, doc.get? key = some old → old.isSingle = true) ∧
      ∀ p ∈ laterPieces doc ts key, p.fresh = false)
  /-- From any line on, a list of texts stays one. -/
  many : ∀ earlier later value, ts = earlier ++ later →
    (mergeAll doc earlier).get? key = some value → value.isSingle = false →
      ∃ other, (mergeAll doc ts).get? key = some other ∧ other.isSingle = false

variable (doc : Documentation) (ts : List TagLine) (key : Text)

theorem get?_mergeAll_eq_afterPieces :
    (mergeAll doc ts).get? key =
      TagValue.afterPieces (doc.get? key) (addedPieces doc ts key) := by
  rw [get?_mergeAll, addedPieces, OrderedMap.contains]
  cases doc.get? key with
  | some value => exact TagValue.foldl_after_some _ value
  | none => exact TagValue.foldl_after_none _

theorem textsOf_mergeAll :
    (mergeAll doc ts).textsOf key =
      (Piece.groups ((doc.textsOf key).map Piece.begun ++ addedPieces doc ts key)).map
        TagValue.spaced := by
  rw [textsOf, get?_mergeAll_eq_afterPieces]
  exact TagValue.texts_afterPieces _ _

theorem textsOf_mergeAll_of_concat {before : List Text} {last : Text}
    (htexts : doc.textsOf key = before ++ [last]) :
    ∃ addition rest, (mergeAll doc ts).textsOf key = before ++ (last ++ addition) :: rest := by
  obtain ⟨addition, hlast⟩ :=
    TagValue.exists_spaced_cons last (Piece.leading (addedPieces doc ts key))
  have hbefore : (before.map fun t => [t]).map TagValue.spaced = before := by
    rw [← Piece.groups_begun]
    exact (TagValue.eq_spaced_begun before).symm
  refine ⟨addition, (Piece.freshGroups (addedPieces doc ts key)).map TagValue.spaced, ?_⟩
  rw [textsOf_mergeAll, htexts, Piece.groups_begun_concat, List.map_append, hbefore,
    List.map_cons, hlast]

theorem contains_mergeAll :
    (mergeAll doc ts).contains key = true ↔
      doc.contains key = true ∨ addedPieces doc ts key ≠ [] := by
  rw [OrderedMap.contains, get?_mergeAll_eq_afterPieces, OrderedMap.contains]
  cases doc.get? key with
  | some value => simp [TagValue.afterPieces]
  | none => cases addedPieces doc ts key <;> simp [TagValue.afterPieces]

theorem isSingle_of_get?_mergeAll {value : TagValue}
    (hvalue : (mergeAll doc ts).get? key = some value) :
    value.isSingle = (((doc.get? key).elim true TagValue.isSingle) &&
      (laterPieces doc ts key).all fun p => !p.fresh) := by
  rw [get?_mergeAll_eq_afterPieces] at hvalue
  rw [laterPieces, OrderedMap.contains]
  cases hold : doc.get? key with
  | some old =>
    rw [hold, TagValue.afterPieces, Option.some.injEq] at hvalue
    rw [← hvalue, TagValue.isSingle_foldl_extendPiece]
    rfl
  | none =>
    rw [hold] at hvalue
    cases hpieces : addedPieces doc ts key with
    | nil =>
      rw [hpieces] at hvalue
      cases hvalue
    | cons p rest =>
      rw [hpieces, TagValue.afterPieces, Option.some.injEq] at hvalue
      rw [← hvalue, TagValue.isSingle_foldl_extendPiece]
      rfl

theorem exists_many_mergeAll {value : TagValue} (hvalue : doc.get? key = some value)
    (hmany : value.isSingle = false) :
    ∃ other, (mergeAll doc ts).get? key = some other ∧ other.isSingle = false := by
  have hcontains : (mergeAll doc ts).contains key = true := by
    rw [contains_mergeAll, OrderedMap.contains, hvalue]
    exact .inl rfl
  obtain ⟨other, hother⟩ := Option.isSome_iff_exists.1 hcontains
  refine ⟨other, hother, ?_⟩
  rw [isSingle_of_get?_mergeAll doc ts key hother, hvalue, Option.elim_some, hmany, Bool.false_and]

/-- Lines go on with the groups of a key, whatever its value is. -/
theorem mergeAll_continues : Continues doc ts key where
  texts := textsOf_mergeAll doc ts key
  extends_last _ _ := textsOf_mergeAll_of_concat doc ts key
  contains := contains_mergeAll doc ts key
  single value hvalue := by
    rw [isSingle_of_get?_mergeAll doc ts key hvalue, Bool.and_eq_true]
    refine and_congr ?_ (by simp)
    cases doc.get? key <;> simp
  many := by
    rintro earlier later value rfl hvalue hmany
    have hsplit : mergeAll doc (earlier ++ later) = mergeAll (mergeAll doc earlier) later :=
      List.foldl_append
    rw [hsplit]
    exact exists_many_mergeAll _ later key hvalue hmany

-- A list without texts is a value already, so that a line without a token begins a text.
example : (mergeAll (.ofList [("note".toList, .many [])])
    [⟨"note".toList, [], "one".toList⟩, ⟨"note".toList, [], []⟩,
      ⟨"note".toList, "@apiNote".toList, "@apiNote".toList⟩]).textsOf "note".toList =
    ["one @apiNote".toList] := by decide

end Documentation
end VerbDoc
