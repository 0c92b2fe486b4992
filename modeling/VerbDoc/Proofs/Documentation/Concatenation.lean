import VerbDoc.Proofs.Documentation.Endings

/-!
# Documentation of texts one after another

A blank line closes whatever tag is open, so that a text may be put behind another one with a blank
line between them. Main statement: what a key stands for then is what it stands for in the first
text and in the second one together, provided that each tag of the second text is begun by a line
with text behind the token.
-/
namespace VerbDoc

namespace Piece

theorem leading_append {qs : List Piece} (hqs : ∀ q ∈ qs.head?, q.fresh = true) (ps : List Piece) :
    leading (ps ++ qs) = leading ps := by
  induction ps with
  | nil =>
    cases qs with
    | nil => rfl
    | cons q rest => simp [leading, hqs q rfl]
  | cons p rest ih => rw [List.cons_append, leading_cons, leading_cons, ih]

theorem freshGroups_append {qs : List Piece} (hqs : ∀ q ∈ qs.head?, q.fresh = true)
    (ps : List Piece) : freshGroups (ps ++ qs) = freshGroups ps ++ groups qs := by
  induction ps with
  | nil =>
    cases qs with
    | nil => rfl
    | cons q rest => simp [freshGroups, groups, hqs q rfl]
  | cons p rest ih =>
    rw [List.cons_append, freshGroups, freshGroups, ih, leading_append hqs]
    split <;> rfl

/-- Pieces that begin with a fresh one have their groups to themselves. -/
theorem groups_append {qs : List Piece} (hqs : ∀ q ∈ qs.head?, q.fresh = true) (ps : List Piece) :
    groups (ps ++ qs) = groups ps ++ groups qs := by
  cases ps with
  | nil => rfl
  | cons p rest =>
    rw [List.cons_append, groups, groups, leading_append hqs, freshGroups_append hqs]
    rfl

end Piece

namespace TagValue

theorem elements_ofGroups (groups : List (List Text)) :
    (ofGroups groups).elements = groups.map joined := by
  unfold ofGroups
  split <;> rfl

theorem ofGroups_eq_single_iff (groups : List (List Text)) :
    (∃ text, ofGroups groups = .single text) ↔ groups.length = 1 := by
  unfold ofGroups
  split
  · simp
  · next hmany => simpa [List.length_eq_one_iff] using hmany

end TagValue

namespace Documentation

def textsOf (doc : Documentation) (key : Text) : List Text :=
  (doc.get? key).elim [] TagValue.elements

def piecesOf (m : Marker) (bs : List Block) (key : Text) : List Piece :=
  (bs.filter fun b => b.key = key).flatMap (Block.pieces m)

theorem piecesOf_append (m : Marker) (bs more : List Block) (key : Text) :
    piecesOf m (bs ++ more) key = piecesOf m bs key ++ piecesOf m more key := by
  rw [piecesOf, List.filter_append, List.flatMap_append]
  rfl

theorem keys_ofBlocks (m : Marker) (bs : List Block) :
    (ofBlocks m bs).keys = OrderedMap.distinct (bs.map Block.key) :=
  OrderedMap.keys_ofKeys _ _

theorem get?_ofBlocks {m : Marker} {bs : List Block} {key : Text} (hkey : key ∈ bs.map Block.key) :
    (ofBlocks m bs).get? key = some (.ofGroups (Piece.groups (piecesOf m bs key))) :=
  OrderedMap.get?_ofKeys _ hkey

theorem textsOf_ofBlocks (m : Marker) (bs : List Block) (key : Text) :
    (ofBlocks m bs).textsOf key = (Piece.groups (piecesOf m bs key)).map TagValue.joined := by
  by_cases hkey : key ∈ bs.map Block.key
  · rw [textsOf, get?_ofBlocks hkey]
    exact TagValue.elements_ofGroups _
  · have hnone : bs.filter (fun b => b.key = key) = [] := by
      rw [List.filter_eq_nil_iff]
      intro b hb heq
      exact hkey (of_decide_eq_true heq ▸ List.mem_map_of_mem hb)
    have hget : (ofBlocks m bs).get? key = none := OrderedMap.get?_ofKeys_of_not_mem _ hkey
    rw [textsOf, hget, piecesOf, hnone]
    rfl

/-- A key stands for a single text exactly if it has one text. -/
theorem single_iff_of_get?_ofBlocks {m : Marker} {bs : List Block} {key : Text} {value : TagValue}
    (h : (ofBlocks m bs).get? key = some value) :
    (∃ text, value = .single text) ↔ ((ofBlocks m bs).textsOf key).length = 1 := by
  have hkey : key ∈ bs.map Block.key := by
    rw [← OrderedMap.mem_distinct, ← keys_ofBlocks m bs, ← OrderedMap.contains_iff_mem_keys,
      OrderedMap.contains, h, Option.isSome_some]
  rw [get?_ofBlocks hkey, Option.some.injEq] at h
  rw [textsOf_ofBlocks, List.length_map, ← h]
  exact TagValue.ofGroups_eq_single_iff _

end Documentation

namespace Marker

open Documentation

/-- White space follows the name of each block that is the first one of its key. Lines are trimmed,
so that there is text behind the white space. -/
def BeginsFresh (m : Marker) (t : Text) : Prop :=
  ∀ b ∈ m.blocksIn t,
    (m.blocksIn t).find? (fun b' => b'.key = b.key) = some b → b.tail.head?.any Text.isBlank = true

instance (m : Marker) (t : Text) : Decidable (m.BeginsFresh t) := by
  unfold BeginsFresh
  infer_instance

/-- A blank line between two texts keeps their blocks apart. -/
theorem blocksIn_append (m : Marker) (a b : Text) :
    m.blocksIn (a ++ '\n' :: '\n' :: b) = m.blocksIn a ++ m.blocksIn b := by
  have hempty : undecorate [] = [] := rfl
  have hends : m.endsBlock [] = true := by simp [endsBlock]
  have hopens : m.splitName? [] = none := splitName?_eq_none (by simp)
  have hblank : ∀ before rest : List Text,
      m.blocks (before ++ [] :: rest) = m.blocks before ++ m.blocks rest := by
    intro before rest
    rw [blocks_append hends, blocks_cons_of_none hopens]
  obtain ⟨before, -, hbefore, happend⟩ := Text.exists_lines_append_lf a
  have hlines : Text.lines ('\n' :: b) = [] :: Text.lines b := rfl
  rw [blocksIn, happend, hlines, List.map_append, List.map_cons, hempty, hblank, blocksIn]
  rcases hbefore with hbefore | hbefore
  · rw [hbefore, blocksIn]
  · -- The first text ends in a CR, and the empty line behind that has no block.
    rw [hbefore, List.map_append, List.map_singleton, hempty, hblank, blocks,
      List.append_nil, blocksIn]

/-- The first piece of a key is fresh where its first block is. -/
theorem fresh_of_beginsFresh {m : Marker} {t : Text} (ht : m.BeginsFresh t) (key : Text) :
    ∀ p ∈ (piecesOf m (m.blocksIn t) key).head?, p.fresh = true := by
  intro p hp
  cases hblocks : (m.blocksIn t).filter fun b => b.key = key with
  | nil => simp [piecesOf, hblocks] at hp
  | cons b rest =>
    have hb : b ∈ (m.blocksIn t).filter fun b => b.key = key := by
      simp [hblocks]
    obtain ⟨hmem, hkey⟩ := List.mem_filter.1 hb
    have hfind : (m.blocksIn t).find? (fun b => b.key = key) = some b := by
      rw [← List.head?_filter, hblocks, List.head?_cons]
    rw [← of_decide_eq_true hkey] at hfind
    have hfresh := ht b hmem hfind
    simp only [piecesOf, hblocks, List.flatMap_cons, Block.pieces, List.cons_append,
      List.head?_cons, Option.mem_def, Option.some.injEq] at hp
    rw [← hp, Block.openingPiece, if_pos hfresh]

/-- Two texts with a blank line between them have the documentation of the first, continued by
that of the second. -/
theorem parse_append (m : Marker) (a : Text) {b : Text} (hb : m.BeginsFresh b) :
    (m.parse (some (a ++ '\n' :: '\n' :: b))).keys =
        (m.parse (some a)).keys ++
          (m.parse (some b)).keys.filter (fun key => key ∉ (m.parse (some a)).keys) ∧
      (∀ key, (m.parse (some (a ++ '\n' :: '\n' :: b))).textsOf key =
        (m.parse (some a)).textsOf key ++ (m.parse (some b)).textsOf key) ∧
      ∀ key value, (m.parse (some (a ++ '\n' :: '\n' :: b))).get? key = some value →
        ((∃ text, value = .single text) ↔
          ((m.parse (some a)).textsOf key ++ (m.parse (some b)).textsOf key).length = 1) := by
  have htexts : ∀ key, (m.parse (some (a ++ '\n' :: '\n' :: b))).textsOf key =
      (m.parse (some a)).textsOf key ++ (m.parse (some b)).textsOf key := by
    intro key
    rw [parse_some, parse_some, parse_some, blocksIn_append, textsOf_ofBlocks, textsOf_ofBlocks,
      textsOf_ofBlocks, piecesOf_append, Piece.groups_append (fresh_of_beginsFresh hb key),
      List.map_append]
  refine ⟨?_, htexts, ?_⟩
  · rw [parse_some, parse_some, parse_some, blocksIn_append, keys_ofBlocks, keys_ofBlocks,
      keys_ofBlocks, List.map_append]
    exact OrderedMap.distinct_append (by simp) _
  · intro key value hvalue
    rw [← htexts]
    rw [parse_some] at hvalue ⊢
    exact single_iff_of_get?_ofBlocks hvalue

/-- A text that ends in a CR, with a tag that is still open. -/
def openText : Text := "@apiUri /a\n@apiNote one\n two\r".toList

/-- A text that begins two tags, and goes on with the first of them in a bare line. -/
def freshText : Text := "@apiNote three\n@apiNote\n@apiKind *x*".toList

theorem parse_append_openText :
    standard.BeginsFresh freshText ∧
      (standard.parse (some (openText ++ '\n' :: '\n' :: freshText))).keys =
        ["uri".toList, "note".toList, "kind".toList] ∧
      (standard.parse (some (openText ++ '\n' :: '\n' :: freshText))).textsOf "note".toList =
        ["one two".toList, "three @apiNote".toList] := by
  have hfresh : standard.BeginsFresh freshText := by decide
  obtain ⟨hkeys, htexts, -⟩ := parse_append standard openText hfresh
  refine ⟨hfresh, ?_, ?_⟩
  · rw [hkeys]
    decide
  · rw [htexts]
    decide

end Marker
end VerbDoc
