import VerbDoc.Proofs.Documentation.Reading
import VerbDoc.Proofs.Documentation.Rendering

/-!
# Reading what was written

A text under a key is written as a block of its own, whose pieces make one group. Main statement:
documentation that can be written is what its text is read as, whichever way the texts were cut and
whichever line ending is used.
-/
namespace VerbDoc

namespace Marker

variable {m : Marker} {key : Text}

/-! ## Blocks of written lines -/

theorem blocks_append_owned {owned : List Text} (howned : ∀ line ∈ owned, m.endsBlock line = false)
    (rest : List Text) : m.blocks (owned ++ rest) = m.blocks rest := by
  induction owned with
  | nil => rfl
  | cons line more ih =>
    have hline : m.splitName? line = none := by
      cases hname : m.splitName? line with
      | none => rfl
      | some parts =>
        have hends := endsBlock_of_splitName? hname
        rw [howned line (by simp)] at hends
        cases hends
    rw [List.cons_append, blocks, hline]
    exact ih fun l hl => howned l (by simp [hl])

theorem takeWhile_append_owned {owned rest : List Text}
    (howned : ∀ line ∈ owned, m.endsBlock line = false)
    (hrest : ∀ line, rest.head? = some line → m.endsBlock line = true) :
    ((owned ++ rest).takeWhile fun l => !m.endsBlock l) = owned := by
  rw [List.takeWhile_append_of_pos (by simpa using howned)]
  cases rest with
  | nil => simp
  | cons line more => simp [hrest line rfl]

/-- A further piece neither ends nor opens a block. -/
theorem endsBlock_of_isFurtherPiece {t : Text} (ht : IsFurtherPiece m t) :
    m.endsBlock t = false := by
  have hmarker : Text.after? m.text t = none := by
    cases hafter : Text.after? m.text t with
    | none => rfl
    | some rest =>
      have hline := Text.after?_eq_some_iff.1 hafter
      exact absurd ⟨rest, hline.symm⟩ ht.no_marker
  have hforeign := ht.not_foreign
  have hne := ht.ne_nil
  cases t with
  | nil => exact absurd rfl hne
  | cons c rest => simp_all [endsBlock, LineRole.isForeign]

def writtenBlock (key : Text) (c : CutText) : Block :=
  ⟨Text.capitalize key, ' ' :: c.first, c.more⟩

theorem splitName?_opening (hkey : IsTagKey key) (first : Text) :
    m.splitName? (m.text ++ Text.capitalize key ++ ' ' :: first) =
      some (Text.capitalize key, ' ' :: first) := by
  rw [splitName?_eq_some_iff]
  refine ⟨rfl, hkey.capitalize_ne_nil, fun c hc => hkey.isAlpha_of_mem_capitalize hc, ?_⟩
  intro c hc
  obtain rfl : ' ' = c := by simpa using hc
  rfl

def writings (cut : OrderedMap Text CutValue) : List (Text × CutText) :=
  cut.entries.flatMap fun e => e.2.texts.map fun c => (e.1, c)

theorem renderLines_eq_flatMap_writings (m : Marker) (cut : OrderedMap Text CutValue) :
    m.renderLines cut = (writings cut).flatMap fun w => m.writtenLines w.1 w.2 := by
  rw [renderLines, writings, List.flatMap_assoc]
  simp only [List.flatMap_map]

/-- Written texts are read as their blocks. -/
theorem blocks_flatMap_writtenLines {ws : List (Text × CutText)}
    (hws : ∀ w ∈ ws, IsTagKey w.1 ∧ w.2.IsWritable m) :
    m.blocks (ws.flatMap fun w => m.writtenLines w.1 w.2) =
      ws.map fun w => writtenBlock w.1 w.2 := by
  induction ws with
  | nil => rfl
  | cons w rest ih =>
    obtain ⟨hkey, hcut⟩ := hws w (by simp)
    have hrest := ih fun w' hw' => hws w' (by simp [hw'])
    have howned : ∀ line ∈ w.2.more, m.endsBlock line = false := by
      intro line hline
      exact endsBlock_of_isFurtherPiece (hcut.more line hline)
    have hnext : ∀ line, (rest.flatMap fun w => m.writtenLines w.1 w.2).head? = some line →
        m.endsBlock line = true := by
      intro line hline
      cases rest with
      | nil => simp at hline
      | cons next others =>
        obtain ⟨hnext, -⟩ := hws next (by simp)
        rw [List.flatMap_cons, writtenLines, List.cons_append, List.head?_cons] at hline
        rw [← Option.some.inj hline]
        exact endsBlock_of_splitName? (splitName?_opening hnext next.2.first)
    rw [List.flatMap_cons, List.map_cons, writtenLines, List.cons_append, blocks,
      splitName?_opening hkey, takeWhile_append_owned howned hnext, blocks_append_owned howned,
      hrest]
    rfl

end Marker

/-! ## Values of written documentation -/

namespace CutText

def linePieces (c : CutText) : List Piece :=
  ⟨c.first, true⟩ :: c.more.map fun t => ⟨t, false⟩

theorem pieces_writtenBlock {m : Marker} {c : CutText} (hc : c.IsWritable m) (key : Text) :
    (Marker.writtenBlock key c).pieces m = c.linePieces := by
  have htrim : Text.trim (' ' :: c.first) = c.first := by
    rw [Text.trim_cons_of_blank (by decide), Text.trim_eq_self hc.first.trimmed]
  have hblank : Text.isBlank ' ' = true := by decide
  simp [Block.pieces, Block.openingPiece, Marker.writtenBlock, linePieces, htrim, hblank]

end CutText

namespace Piece

/-- Pieces that are not fresh go with those before them. -/
theorem leading_append_more (more : List Text) (rest : List Piece) :
    leading ((more.map fun t => ⟨t, false⟩) ++ rest) = more ++ leading rest := by
  induction more with
  | nil => rfl
  | cons t others ih => simpa [leading_cons] using ih

theorem freshGroups_append_more (more : List Text) (rest : List Piece) :
    freshGroups ((more.map fun t => ⟨t, false⟩) ++ rest) = freshGroups rest := by
  induction more with
  | nil => rfl
  | cons t others ih => simpa [freshGroups] using ih

theorem leading_flatMap_linePieces (cs : List CutText) :
    leading (cs.flatMap CutText.linePieces) = [] := by
  cases cs <;> simp [leading, CutText.linePieces]

theorem freshGroups_flatMap_linePieces (cs : List CutText) :
    freshGroups (cs.flatMap CutText.linePieces) = cs.map CutText.pieces := by
  induction cs with
  | nil => rfl
  | cons c rest ih =>
    rw [List.flatMap_cons, List.map_cons, CutText.linePieces, List.cons_append, freshGroups,
      if_pos rfl, leading_append_more, freshGroups_append_more, leading_flatMap_linePieces, ih,
      List.append_nil]
    rfl

/-- Each text makes a group of its own pieces. -/
theorem groups_flatMap_linePieces (cs : List CutText) :
    groups (cs.flatMap CutText.linePieces) = cs.map CutText.pieces := by
  rw [← freshGroups_flatMap_linePieces]
  cases cs with
  | nil => rfl
  | cons c rest => simp [groups, freshGroups, CutText.linePieces]

end Piece

theorem CutValue.ofGroups_texts {m : Marker} {value : CutValue} (hvalue : value.IsWritable m) :
    TagValue.ofGroups (value.texts.map CutText.pieces) = value.value := by
  cases value with
  | single text => rfl
  | many texts =>
    obtain ⟨hlength, -⟩ := hvalue
    match texts, hlength with
    | first :: second :: rest, _ =>
      simp [CutValue.texts, CutValue.value, TagValue.ofGroups, CutText.text, Function.comp_def]

theorem CutValue.isWritable_of_mem_texts {m : Marker} {value : CutValue}
    (hvalue : value.IsWritable m) {c : CutText} (hc : c ∈ value.texts) : c.IsWritable m := by
  cases value with
  | single text =>
    rw [List.mem_singleton.1 hc]
    exact hvalue
  | many texts => exact hvalue.2 c hc

namespace IsWritableCut

open Marker

variable {m : Marker} {cut : OrderedMap Text CutValue}

theorem isTagKey_of_mem_entries (hcut : IsWritableCut m cut) {e : Text × CutValue}
    (he : e ∈ cut.entries) : IsTagKey e.1 :=
  hcut.keys e.1 (List.mem_map_of_mem he)

theorem of_mem_writings (hcut : IsWritableCut m cut) {w : Text × CutText}
    (hw : w ∈ writings cut) : IsTagKey w.1 ∧ w.2.IsWritable m := by
  obtain ⟨e, he, hw⟩ := List.mem_flatMap.1 hw
  obtain ⟨c, hc, rfl⟩ := List.mem_map.1 hw
  exact ⟨hcut.isTagKey_of_mem_entries he, CutValue.isWritable_of_mem_texts (hcut.values e he) hc⟩

/-- The keys of the written blocks are the keys of the texts. -/
theorem map_key_writtenBlock (hcut : IsWritableCut m cut) :
    ((writings cut).map fun w => writtenBlock w.1 w.2).map Block.key =
      (writings cut).map Prod.fst := by
  rw [List.map_map]
  apply List.map_congr_left
  intro w hw
  exact (hcut.of_mem_writings hw).1.decapitalize_capitalize

theorem distinct_map_fst_writings (hcut : IsWritableCut m cut) :
    OrderedMap.distinct ((writings cut).map Prod.fst) = cut.keys := by
  have hpart : ∀ e ∈ cut.entries, (e.2.texts.map fun _ => e.1) ≠ [] ∧
      ∀ k ∈ e.2.texts.map fun _ => e.1, k = e.1 := by
    intro e he
    refine ⟨?_, by simp⟩
    have hvalue := hcut.values e he
    cases htexts : e.2 with
    | single text => simp [CutValue.texts]
    | many texts =>
      rw [htexts] at hvalue
      obtain ⟨hlength, -⟩ := hvalue
      cases texts with
      | nil => simp at hlength
      | cons first rest => simp [CutValue.texts]
  have hwritings : (writings cut).map Prod.fst =
      cut.entries.flatMap fun e => e.2.texts.map fun _ => e.1 := by
    simp [writings, List.map_flatMap, Function.comp_def]
  rw [hwritings, OrderedMap.distinct_flatMap hpart]
  exact OrderedMap.distinct_eq_self cut.nodup_keys

/-- The blocks of a key are those of the texts of its value. -/
theorem filter_key_writtenBlock (hcut : IsWritableCut m cut) {e : Text × CutValue}
    (he : e ∈ cut.entries) :
    (((writings cut).map fun w => writtenBlock w.1 w.2).filter fun b => b.key = e.1) =
      e.2.texts.map (writtenBlock e.1) := by
  have hblocks : ((writings cut).map fun w => writtenBlock w.1 w.2) =
      cut.entries.flatMap fun e => e.2.texts.map (writtenBlock e.1) := by
    simp [writings, List.map_flatMap, Function.comp_def]
  have hpart : ∀ e' ∈ cut.entries, ∀ b ∈ e'.2.texts.map (writtenBlock e'.1),
      decide (b.key = e.1) = decide (e'.1 = e.1) := by
    intro e' he' b hb
    obtain ⟨c, _, rfl⟩ := List.mem_map.1 hb
    have hkey : (writtenBlock e'.1 c).key = e'.1 :=
      (hcut.isTagKey_of_mem_entries he').decapitalize_capitalize
    rw [hkey]
  rw [hblocks, OrderedMap.filter_flatMap_of_const hpart,
    OrderedMap.filter_key_of_mem cut.nodup_keys he]
  simp

/-- The written blocks hold the documentation that was written. -/
theorem ofBlocks_writtenBlock (hcut : IsWritableCut m cut) :
    Documentation.ofBlocks m ((writings cut).map fun w => writtenBlock w.1 w.2) =
      cut.mapValues CutValue.value := by
  refine (OrderedMap.eq_ofKeys ?_ ?_).symm
  · rw [hcut.map_key_writtenBlock, hcut.distinct_map_fst_writings, OrderedMap.keys_mapValues]
  · intro key hkey
    rw [hcut.map_key_writtenBlock, ← OrderedMap.mem_distinct,
      hcut.distinct_map_fst_writings] at hkey
    obtain ⟨e, he, rfl⟩ := List.mem_map.1 hkey
    have hpieces : (e.2.texts.map (writtenBlock e.1)).flatMap (Block.pieces m) =
        e.2.texts.flatMap CutText.linePieces := by
      rw [List.flatMap_map, List.flatMap_def, List.flatMap_def]
      congr 1
      apply List.map_congr_left
      intro c hc
      exact CutText.pieces_writtenBlock (CutValue.isWritable_of_mem_texts (hcut.values e he) hc) e.1
    have hfound : cut.get? e.1 = some e.2 := OrderedMap.find_eq_of_mem cut.nodup_keys he
    rw [OrderedMap.get?_mapValues, hfound, hcut.filter_key_writtenBlock he, hpieces,
      Piece.groups_flatMap_linePieces, CutValue.ofGroups_texts (hcut.values e he)]
    rfl

end IsWritableCut

/-- Documentation that can be written is what its text is read as. -/
theorem Marker.parse_render {m : Marker} (hm : m.IsWritable) {cut : OrderedMap Text CutValue}
    (hcut : IsWritableCut m cut) (ending : Text.LineEnding) :
    m.parse (some (m.render ending cut)) = cut.mapValues CutValue.value := by
  have hlines : ∀ line ∈ m.renderLines cut,
      IsPiece line ∧ ¬Documentation.BeginsWithGutter line := by
    intro line hline
    rw [renderLines_eq_flatMap_writings] at hline
    obtain ⟨w, hw, hline⟩ := List.mem_flatMap.1 hline
    obtain ⟨hkey, hc⟩ := hcut.of_mem_writings hw
    exact isPiece_of_mem_writtenLines hm hkey hc hline
  rw [parse, render, Documentation.undecoratedLines_joinWith ending hlines,
    Documentation.foldl_step_eq_ofBlocks m fun line hline => (hlines line hline).1.trimmed,
    renderLines_eq_flatMap_writings, blocks_flatMap_writtenLines fun _ => hcut.of_mem_writings,
    hcut.ofBlocks_writtenBlock]

/-- Documentation with a wrapped text, a repeated tag and pieces that start like other lines. -/
def wrappedDocumentation : OrderedMap Text CutValue :=
  .ofList [("uri".toList, .single ⟨"/users/*".toList, ["of *every*".toList, "kind".toList]⟩),
    ("apiReturn".toList,
      .many [⟨"@apiUri".toList, []⟩, ⟨"* 404 /".toList, ["or\u00a0410".toList]⟩])]

theorem Marker.parse_render_wrapped :
    Marker.standard.IsWritable ∧ IsWritableCut Marker.standard wrappedDocumentation ∧
      Marker.standard.parse (some (Marker.standard.render .crLf wrappedDocumentation)) =
        wrappedDocumentation.mapValues CutValue.value := by
  have hm : Marker.standard.IsWritable := by decide
  have hcut : IsWritableCut Marker.standard wrappedDocumentation := by decide
  exact ⟨hm, hcut, Marker.parse_render hm hcut .crLf⟩

end VerbDoc
