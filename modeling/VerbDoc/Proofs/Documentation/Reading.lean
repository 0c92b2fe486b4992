import VerbDoc.Documentation.Parse
import VerbDoc.Proofs.Documentation.Blocks

/-!
# Reading blocks line by line

The reader never looks at a block as a whole: it keeps the open tag while it goes from line to
line. Main statement: reading the lines of a text one after another gives the documentation of its
blocks.
-/
namespace VerbDoc

/-! ## Reading line by line -/

namespace Block

def tagLines (m : Marker) (b : Block) : List TagLine :=
  (b.opening m :: b.owned).map fun line => ⟨b.key, m.text ++ b.name, line⟩

end Block

namespace Marker

open Documentation

/-- The lines at the start of a text that belong to the tag that is open before it. -/
def carried (m : Marker) (active : Option Text) (lines : List Text) : List TagLine :=
  match active with
  | some name =>
    (lines.takeWhile fun line => !m.endsBlock line).map fun line =>
      ⟨Text.decapitalize name, m.text ++ name, line⟩
  | none => []

theorem carried_of_endsBlock {m : Marker} {line : Text} (hends : m.endsBlock line = true)
    (active : Option Text) (rest : List Text) : m.carried active (line :: rest) = [] := by
  cases active <;> simp [carried, hends]

/-- Reading some lines merges those of the open tag, and then those of each block. -/
theorem documentation_foldl_step (m : Marker) (lines : List Text) (doc : Documentation)
    (active : Option Text) :
    (lines.foldl m.step ⟨doc, active.map (m.text ++ ·)⟩).documentation =
      mergeAll doc (m.carried active lines ++ (m.blocks lines).flatMap (Block.tagLines m)) := by
  induction lines generalizing doc active with
  | nil => cases active <;> rfl
  | cons line rest ih =>
    rw [List.foldl_cons, step, blocks]
    cases hname : m.splitName? line with
    | some parts =>
      obtain ⟨name, tail⟩ := parts
      have hline : line = m.text ++ name ++ tail := (splitName?_eq_some_iff.1 hname).1
      have hnext := ih (addLine doc (Text.decapitalize name) line (m.text ++ name)) (some name)
      rw [role_of_splitName? hname, carried_of_endsBlock (endsBlock_of_splitName? hname)]
      simpa [mergeAll, carried, Block.tagLines, Block.opening, Block.key, ← hline] using hnext
    | none =>
      cases hends : m.endsBlock line with
      | true =>
        rw [role_of_endsBlock hname hends, carried_of_endsBlock hends]
        exact ih doc none
      | false =>
        rw [role_of_not_endsBlock hends]
        cases active with
        | none => exact ih doc none
        | some name =>
          have hnext :=
            ih (addLine doc (Text.decapitalize name) line (m.text ++ name)) (some name)
          simpa [mergeAll, carried, hends] using hnext

end Marker

/-! ## Pieces of a block -/

namespace Documentation

/-- A line that begins with a token is fresh if white space follows the token. -/
theorem splitToken_append {token rest : Text} (hne : token ≠ [])
    (htrimmed : Text.Trimmed (token ++ rest)) :
    splitToken token (token ++ rest) =
      if rest.head?.any Text.isBlank then (Text.trim rest, true) else (token ++ rest, false) := by
  have htoken : token.isEmpty = false := by simpa using hne
  unfold splitToken
  simp only [Text.trim_eq_self htrimmed, htoken, Text.after?_append]
  cases rest with
  | nil => rfl
  | cons c more =>
    cases hblank : Text.isBlank c with
    | true => simp [hblank, Text.trim_cons_of_blank hblank]
    | false => simp [hblank]

/-- A line that does not start with the marker is no fresh line of any tag. -/
theorem splitToken_of_not_endsBlock {m : Marker} {line : Text} (htrimmed : Text.Trimmed line)
    (hbelongs : m.endsBlock line = false) (name : Text) :
    splitToken (m.text ++ name) line = (line, false) := by
  have hnone : Text.after? (m.text ++ name) line = none := by
    cases hafter : Text.after? (m.text ++ name) line with
    | none => rfl
    | some rest =>
      have hline := Text.after?_eq_some_iff.1 hafter
      rw [List.append_assoc] at hline
      simp [Marker.endsBlock, Text.after?_eq_some_iff.2 hline] at hbelongs
  simp [splitToken, Text.trim_eq_self htrimmed, hnone]

end Documentation

namespace Block

variable {m : Marker} {b : Block}

/-- The opening line adds its opening piece. -/
theorem piece_opening (h : b.IsTidy m) :
    TagLine.piece ⟨b.key, m.text ++ b.name, b.opening m⟩ = b.openingPiece m := by
  have hsplit := Documentation.splitToken_append (token_ne_nil m b) h.opening_trimmed
  unfold TagLine.piece openingPiece opening
  rw [hsplit]
  split <;> rfl

/-- A line that belongs to a block adds itself. -/
theorem piece_owned {line : Text} (htrimmed : Text.Trimmed line)
    (hbelongs : m.endsBlock line = false) (key name : Text) :
    TagLine.piece ⟨key, m.text ++ name, line⟩ = ⟨line, false⟩ := by
  rw [TagLine.piece, Documentation.splitToken_of_not_endsBlock htrimmed hbelongs]

theorem map_piece_tagLines (h : b.IsTidy m) :
    (b.tagLines m).map TagLine.piece = b.pieces m := by
  rw [tagLines, pieces, List.map_cons, List.map_cons, piece_opening h, List.map_map]
  congr 1
  apply List.map_congr_left
  intro line hline
  exact piece_owned (h.owned_trimmed line hline) (h.owned_belongs line hline) _ _

end Block

namespace Documentation

theorem key_of_mem_tagLines {m : Marker} {b : Block} {t : TagLine} (ht : t ∈ b.tagLines m) :
    t.key = b.key := by
  obtain ⟨line, _, rfl⟩ := List.mem_map.1 ht
  rfl

/-- The pieces of a key are those of its blocks. -/
theorem map_piece_filter_tagLines {m : Marker} {bs : List Block} (h : ∀ b ∈ bs, b.IsTidy m)
    (key : Text) :
    ((bs.flatMap (Block.tagLines m)).filter fun t => t.key = key).map TagLine.piece =
      (bs.filter fun b => b.key = key).flatMap (Block.pieces m) := by
  have hparts : ∀ b ∈ bs, ∀ t ∈ b.tagLines m, decide (t.key = key) = decide (b.key = key) := by
    intro b _ t ht
    rw [key_of_mem_tagLines ht]
  rw [OrderedMap.filter_flatMap_of_const hparts, List.map_flatMap, List.flatMap_def,
    List.flatMap_def]
  congr 1
  apply List.map_congr_left
  intro b hb
  exact Block.map_piece_tagLines (h b (List.mem_filter.1 hb).1)

/-- The lines of a block bring in its key and no other. -/
theorem distinct_key_tagLines (m : Marker) (bs : List Block) :
    OrderedMap.distinct ((bs.flatMap (Block.tagLines m)).map TagLine.key) =
      OrderedMap.distinct (bs.map Block.key) := by
  rw [List.map_flatMap]
  apply OrderedMap.distinct_flatMap
  intro b _
  refine ⟨by simp [Block.tagLines], ?_⟩
  intro k hk
  obtain ⟨t, ht, rfl⟩ := List.mem_map.1 hk
  exact key_of_mem_tagLines ht

/-- Merging the lines of blocks gives the documentation of the blocks. -/
theorem mergeAll_tagLines {m : Marker} {bs : List Block} (h : ∀ b ∈ bs, b.IsTidy m) :
    mergeAll ∅ (bs.flatMap (Block.tagLines m)) = ofBlocks m bs := by
  have htokens : ∀ t ∈ bs.flatMap (Block.tagLines m), t.token ≠ [] := by
    intro t ht
    obtain ⟨b, _, ht⟩ := List.mem_flatMap.1 ht
    obtain ⟨line, _, rfl⟩ := List.mem_map.1 ht
    exact Block.token_ne_nil m b
  have htexts : ∀ t ∈ bs.flatMap (Block.tagLines m), t.piece.text ≠ [] := by
    intro t ht
    obtain ⟨b, hb, ht⟩ := List.mem_flatMap.1 ht
    have hpiece : t.piece ∈ b.pieces m := by
      rw [← Block.map_piece_tagLines (h b hb)]
      exact List.mem_map_of_mem ht
    exact Block.text_ne_nil_of_mem_pieces (h b hb) hpiece
  rw [mergeAll_empty htokens htexts]
  apply OrderedMap.eq_ofKeys
  · rw [OrderedMap.keys_ofKeys, distinct_key_tagLines]
  · intro key hkey
    have hmem : key ∈ (bs.flatMap (Block.tagLines m)).map TagLine.key := by
      rw [← OrderedMap.mem_distinct, distinct_key_tagLines, OrderedMap.mem_distinct]
      exact hkey
    rw [OrderedMap.get?_ofKeys _ hmem, map_piece_filter_tagLines h]

/-- Reading trimmed lines one after another gives the documentation of their blocks. -/
theorem foldl_step_eq_ofBlocks (m : Marker) {lines : List Text}
    (htrimmed : ∀ line ∈ lines, Text.Trimmed line) :
    (lines.foldl m.step ⟨∅, none⟩).documentation = ofBlocks m (m.blocks lines) := by
  have hfold := m.documentation_foldl_step lines ∅ none
  rw [← mergeAll_tagLines fun b hb => Marker.isTidy_of_mem_blocks htrimmed hb]
  exact hfold

theorem trimmed_of_mem_undecoratedLines {raw : Option Text} {line : Text}
    (h : line ∈ undecoratedLines raw) : Text.Trimmed line := by
  unfold undecoratedLines at h
  split at h
  · simp at h
  · simp at h
  · obtain ⟨source, _, rfl⟩ := List.mem_map.1 h
    exact trimmed_undecorate source

end Documentation

/-- The documentation in a text is that of the blocks of its undecorated lines. -/
theorem Marker.parse_eq_ofBlocks (m : Marker) (raw : Option Text) :
    m.parse raw =
      Documentation.ofBlocks m (m.blocks (Documentation.undecoratedLines raw)) :=
  Documentation.foldl_step_eq_ofBlocks m fun _ => Documentation.trimmed_of_mem_undecoratedLines

end VerbDoc
