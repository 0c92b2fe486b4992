import VerbDoc.Proofs.Documentation.Merging

/-!
# Groups of pieces

The pieces of a tag fall into groups: a fresh piece begins a group, and every other piece joins
the one before it. The value of the tag has a text for each group, which is the texts of its
pieces with a space between neighbours. Main statement: merging lines one after another into
empty documentation gives every key, at the place of its first line, the value of its groups.
-/
namespace VerbDoc

namespace Piece

/-- The texts of the pieces before the first fresh one. -/
def leading (ps : List Piece) : List Text := (ps.takeWhile fun p => !p.fresh).map Piece.text

def freshGroups : List Piece → List (List Text)
  | [] => []
  | p :: rest =>
    if p.fresh then (p.text :: leading rest) :: freshGroups rest else freshGroups rest

/-- The groups of the pieces of a tag, the first of which begins a group in any case. -/
def groups : List Piece → List (List Text)
  | [] => []
  | p :: rest => (p.text :: leading rest) :: freshGroups rest

theorem leading_cons (p : Piece) (rest : List Piece) :
    leading (p :: rest) = if p.fresh then [] else p.text :: leading rest := by
  unfold leading
  cases hfresh : p.fresh <;> simp [hfresh]

end Piece

namespace TagValue

/-- The texts of a group with a space between neighbours. -/
def joined (group : List Text) : Text := Text.joinWith [' '] group

/-- The value with a text for each group, which is a single text where there is one group. -/
def ofGroups : List (List Text) → TagValue
  | [group] => .single (joined group)
  | groups => .many (groups.map joined)

theorem joined_cons_cons (first second : Text) (rest : List Text) :
    joined (first :: second :: rest) = first ++ ' ' :: joined (second :: rest) := by
  simp [joined, Text.joinWith]

theorem joined_concat {group : List Text} (hgroup : group ≠ []) (text : Text) :
    joined (group ++ [text]) = joined group ++ ' ' :: text := by
  induction group with
  | nil => exact absurd rfl hgroup
  | cons first rest ih =>
    cases rest with
    | nil => simp [joined, Text.joinWith]
    | cons second more =>
      have hmore := ih (List.cons_ne_nil second more)
      rw [List.cons_append, List.cons_append, joined_cons_cons, joined_cons_cons,
        ← List.cons_append, hmore, List.append_assoc, List.cons_append]

theorem joined_ne_nil {group : List Text} (hgroup : group ≠ [])
    (htexts : ∀ text ∈ group, text ≠ []) : joined group ≠ [] := by
  cases group with
  | nil => exact absurd rfl hgroup
  | cons first rest =>
    have hfirst : first ≠ [] := htexts first (by simp)
    cases rest with
    | nil => simpa [joined, Text.joinWith] using hfirst
    | cons second more => simp [joined_cons_cons]

theorem joinTexts_of_ne_nil {current addition : Text} (hcurrent : current ≠ [])
    (haddition : addition ≠ []) : joinTexts current addition = current ++ ' ' :: addition := by
  rw [joinTexts, if_neg (by simpa using hcurrent), if_neg (by simpa using haddition)]

/-- A text that is joined to a group becomes its last text. -/
theorem joinTexts_joined {group : List Text} (hgroup : group ≠ [])
    (htexts : ∀ text ∈ group, text ≠ []) {text : Text} (htext : text ≠ []) :
    joinTexts (joined group) text = joined (group ++ [text]) := by
  rw [joined_concat hgroup, joinTexts_of_ne_nil (joined_ne_nil hgroup htexts) htext]

theorem extendLast_concat (addition last : Text) (texts : List Text) :
    extendLast addition (texts ++ [last]) = texts ++ [joinTexts last addition] := by
  induction texts with
  | nil => rfl
  | cons first rest ih =>
    cases rest with
    | nil => rfl
    | cons second more => exact congrArg (first :: ·) ih

theorem extendPiece_of_fresh (value : TagValue) {p : Piece} (hp : p.fresh = true) :
    value.extendPiece p = .many (value.elements ++ [p.text]) := by
  cases value <;> simp [extendPiece, elements, hp]

theorem elements_extendPiece_of_not_fresh (value : TagValue) {p : Piece} (hp : p.fresh = false) :
    (value.extendPiece p).elements = extendLast p.text value.elements := by
  cases value <;> simp [extendPiece, elements, extendLast, hp]

theorem ofGroups_concat_of_ne_nil {groups : List (List Text)} (hgroups : groups ≠ [])
    (group : List Text) :
    ofGroups (groups ++ [group]) = .many (groups.map joined ++ [joined group]) := by
  cases groups with
  | nil => exact absurd rfl hgroups
  | cons first rest =>
    cases rest with
    | nil => rfl
    | cons second more => simp [ofGroups]

/-- A fresh piece begins a group, and any other one becomes the last of the last group. -/
theorem extendPiece_ofGroups (before : List (List Text)) {group : List Text} (hgroup : group ≠ [])
    (htexts : ∀ text ∈ group, text ≠ []) {p : Piece} (hp : p.text ≠ []) :
    (ofGroups (before ++ [group])).extendPiece p =
      if p.fresh then ofGroups (before ++ [group] ++ [[p.text]])
      else ofGroups (before ++ [group ++ [p.text]]) := by
  have hlone : joined [p.text] = p.text := by simp [joined, Text.joinWith]
  have hjoin := joinTexts_joined hgroup htexts hp
  have hbegun : ofGroups (before ++ [group] ++ [[p.text]]) =
      .many ((before ++ [group]).map joined ++ [p.text]) := by
    rw [ofGroups_concat_of_ne_nil (by simp), hlone]
  rw [hbegun]
  by_cases hbefore : before = []
  · subst hbefore
    cases hfresh : p.fresh <;> simp [ofGroups, extendPiece, hfresh, hjoin]
  · rw [ofGroups_concat_of_ne_nil hbefore, ofGroups_concat_of_ne_nil hbefore]
    cases hfresh : p.fresh <;> simp [extendPiece, hfresh, extendLast_concat, hjoin]

/-- The pieces that come after some groups: those in front of the first fresh one join the last
group, and the others begin groups of their own. -/
theorem foldl_extendPiece (ps : List Piece) (before : List (List Text)) {group : List Text}
    (hgroup : group ≠ []) (htexts : ∀ text ∈ group, text ≠ []) (hps : ∀ p ∈ ps, p.text ≠ []) :
    ps.foldl extendPiece (ofGroups (before ++ [group])) =
      ofGroups (before ++ (group ++ Piece.leading ps) :: Piece.freshGroups ps) := by
  induction ps generalizing before group with
  | nil => simp [Piece.leading, Piece.freshGroups]
  | cons p rest ih =>
    have hp : p.text ≠ [] := hps p (by simp)
    have hrest : ∀ q ∈ rest, q.text ≠ [] := fun q hq => hps q (by simp [hq])
    rw [List.foldl_cons, extendPiece_ofGroups before hgroup htexts hp, Piece.leading_cons,
      Piece.freshGroups]
    cases hfresh : p.fresh with
    | true =>
      simp only [if_true]
      rw [ih (before ++ [group]) (by simp) (by simpa using hp) hrest]
      simp
    | false =>
      simp only [Bool.false_eq_true, if_false]
      rw [ih before (by simp) ?_ hrest]
      · simp
      · intro text htext
        rcases List.mem_append.1 htext with hold | hnew
        · exact htexts text hold
        · rw [List.mem_singleton.1 hnew]
          exact hp

/-- Every line of a tag that has a value goes on with it, token or not. -/
theorem foldl_after_some (ts : List TagLine) (value : TagValue) :
    ts.foldl after (some value) = some ((ts.map TagLine.piece).foldl extendPiece value) := by
  induction ts generalizing value with
  | nil => rfl
  | cons t rest ih => exact ih _

/-- What lines of one tag make of it: the value of the groups of their pieces. -/
theorem foldl_after {t : TagLine} {ts : List TagLine} (htoken : t.token ≠ [])
    (htexts : ∀ u ∈ t :: ts, u.piece.text ≠ []) :
    (t :: ts).foldl after none = some (ofGroups (Piece.groups ((t :: ts).map TagLine.piece))) := by
  have hfirst : after none t = some (ofGroups ([] ++ [[t.piece.text]])) := by
    simp [after, htoken, ofGroups, joined, Text.joinWith]
  have hpieces : ∀ p ∈ ts.map TagLine.piece, p.text ≠ [] := by
    intro p hp
    obtain ⟨u, hu, rfl⟩ := List.mem_map.1 hp
    exact htexts u (by simp [hu])
  have ht : t.piece.text ≠ [] := htexts t (by simp)
  rw [List.foldl_cons, hfirst, foldl_after_some,
    foldl_extendPiece _ [] (by simp) (by simpa using ht) hpieces]
  rfl

end TagValue

namespace Documentation

/-- Merging lines into empty documentation gives every key, at the place of its first line, the
value of the groups of its pieces. -/
theorem mergeAll_empty {ts : List TagLine} (htokens : ∀ t ∈ ts, t.token ≠ [])
    (htexts : ∀ t ∈ ts, t.piece.text ≠ []) :
    mergeAll ∅ ts =
      .ofKeys (fun key => .ofGroups
        (Piece.groups ((ts.filter fun t => t.key = key).map TagLine.piece)))
        (ts.map TagLine.key) := by
  have hall : ts.filter (fun t => !t.token.isEmpty) = ts := by
    rw [List.filter_eq_self]
    intro t ht
    simpa using htokens t ht
  apply OrderedMap.eq_ofKeys
  · rw [keys_mergeAll, hall]
    exact OrderedMap.foldl_addKey_nil _
  · intro key hkey
    obtain ⟨t, ht, rfl⟩ := List.mem_map.1 hkey
    rw [get?_mergeAll]
    -- The lines of the key are some of all lines, and the key has one.
    cases hlines : ts.filter fun u => u.key = t.key with
    | nil =>
      have hmem : t ∈ ts.filter fun u => u.key = t.key := by simp [ht]
      rw [hlines] at hmem
      simp at hmem
    | cons first rest =>
      have hsub : ∀ u ∈ first :: rest, u ∈ ts := by
        intro u hu
        rw [← hlines] at hu
        exact (List.mem_filter.1 hu).1
      exact TagValue.foldl_after (htokens first (hsub first (by simp)))
        fun u hu => htexts u (hsub u hu)

end Documentation
end VerbDoc
