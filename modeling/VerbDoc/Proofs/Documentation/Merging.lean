import VerbDoc.Documentation.Merge
import VerbDoc.Proofs.OrderedMap

/-!
# Merging many lines

Lines are merged into documentation one after another, each under the key of its tag. The tags do
not interfere: what a key stands for at the end depends on the lines of that key alone, and each
key stands where its first line came.

A line with an empty token begins no tag, so that the statements about keys look only at lines
with a token.
-/
namespace VerbDoc

/-- A line together with the key and the token of the tag it belongs to. -/
structure TagLine where
  key : Text
  token : Text
  line : Text
  deriving DecidableEq, Repr

/-- What a line adds to its tag, and whether it begins a new element. -/
structure Piece where
  text : Text
  fresh : Bool
  deriving DecidableEq, Repr

def TagLine.piece (t : TagLine) : Piece :=
  ⟨(Documentation.splitToken t.token t.line).1, (Documentation.splitToken t.token t.line).2⟩

namespace TagValue

def extendPiece (value : TagValue) (piece : Piece) : TagValue :=
  match value with
  | .single old =>
    if piece.fresh then .many [old, piece.text] else .single (joinTexts old piece.text)
  | .many olds =>
    if piece.fresh then .many (olds ++ [piece.text]) else .many (extendLast piece.text olds)

theorem extend_eq_extendPiece (value : TagValue) (t : TagLine) :
    value.extend t.line t.token = value.extendPiece t.piece := by
  cases value <;> rfl

/-- What a key stands for after one more line of its tag. -/
def after (value : Option TagValue) (t : TagLine) : Option TagValue :=
  match value with
  | some value => some (value.extendPiece t.piece)
  | none => if t.token.isEmpty then none else some (.single t.piece.text)

end TagValue

namespace Documentation

def mergeAll (doc : Documentation) (ts : List TagLine) : Documentation :=
  ts.foldl (fun doc t => addLine doc t.key t.line t.token) doc

theorem mergeAll_cons (doc : Documentation) (t : TagLine) (ts : List TagLine) :
    mergeAll doc (t :: ts) = mergeAll (addLine doc t.key t.line t.token) ts := rfl

/-- Merging a line changes what its key stands for, and that depends on nothing else. -/
theorem get?_addLine_self (doc : Documentation) (t : TagLine) :
    (addLine doc t.key t.line t.token).get? t.key = TagValue.after (doc.get? t.key) t := by
  unfold addLine TagValue.after
  cases hold : doc.get? t.key with
  | some value => rw [OrderedMap.get?_insert_self, TagValue.extend_eq_extendPiece]
  | none =>
    dsimp only
    split
    · exact hold
    · exact OrderedMap.get?_insert_self _ _ _

/-- What a key stands for after many lines is what those of its own tag make of it. -/
theorem get?_mergeAll (doc : Documentation) (ts : List TagLine) (key : Text) :
    (mergeAll doc ts).get? key =
      (ts.filter fun t => t.key = key).foldl TagValue.after (doc.get? key) := by
  induction ts generalizing doc with
  | nil => rfl
  | cons t rest ih =>
    rw [mergeAll_cons, ih]
    by_cases hkey : t.key = key
    · subst hkey
      rw [List.filter_cons_of_pos (by simp), List.foldl_cons, get?_addLine_self]
    · rw [List.filter_cons_of_neg (by simpa using hkey), get?_addLine_of_ne]
      exact fun heq => hkey heq.symm

theorem keys_addLine (doc : Documentation) (t : TagLine) :
    (addLine doc t.key t.line t.token).keys =
      if t.token.isEmpty then doc.keys else OrderedMap.addKey doc.keys t.key := by
  unfold addLine OrderedMap.addKey
  cases hold : doc.get? t.key with
  | some value =>
    have hmem : t.key ∈ doc.keys := by
      rw [← doc.contains_iff_mem_keys, OrderedMap.contains, hold]
      rfl
    simp [OrderedMap.keys_insert, hmem]
  | none =>
    dsimp only
    split
    · rfl
    · exact OrderedMap.keys_insert _ _ _

/-- The keys after many lines: those that were there, and then each new one where its first line
with a token came. -/
theorem keys_mergeAll (doc : Documentation) (ts : List TagLine) :
    (mergeAll doc ts).keys =
      ((ts.filter fun t => !t.token.isEmpty).map TagLine.key).foldl OrderedMap.addKey
        doc.keys := by
  induction ts generalizing doc with
  | nil => rfl
  | cons t rest ih =>
    rw [mergeAll_cons, ih, keys_addLine]
    by_cases htoken : t.token.isEmpty = true
    · rw [if_pos htoken, List.filter_cons_of_neg (by simpa using htoken)]
    · rw [if_neg htoken, List.filter_cons_of_pos (by simpa using htoken), List.map_cons,
        List.foldl_cons]

end Documentation
end VerbDoc
