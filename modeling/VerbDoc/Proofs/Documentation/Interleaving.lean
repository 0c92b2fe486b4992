import Mathlib.Data.List.Perm.Basic
import VerbDoc.Proofs.Documentation.Merging

/-!
# Lines of several tags in another order

The lines of one tag have an order, but how the lines of several tags lie between each other is up
to the text. Main statement: two runs with the same lines of each tag in the same order give the
same keys and the same values, and each run puts its new keys, in the order of their first lines
with a token, behind those that were there.
-/
namespace VerbDoc

/-- For each key, the lines of its tag are the same and come in the same order. -/
def TagLine.Interleaved (ts us : List TagLine) : Prop :=
  ∀ key, (ts.filter fun t => t.key = key) = us.filter fun t => t.key = key

namespace TagLine.Interleaved

/-- Neighbouring lines of different tags may change places. -/
theorem swap {t u : TagLine} (hne : t.key ≠ u.key) (before after : List TagLine) :
    Interleaved (before ++ t :: u :: after) (before ++ u :: t :: after) := by
  intro key
  rw [List.filter_append, List.filter_append]
  congr 1
  by_cases ht : t.key = key
  · have hu : u.key ≠ key := fun hu => hne (ht.trans hu.symm)
    simp [ht, hu]
  · simp [List.filter_cons, ht]

end TagLine.Interleaved

namespace Documentation

/-- The keys that lines bring in, in the order of their first lines with a token. -/
def newKeys (doc : Documentation) (ts : List TagLine) : List Text :=
  let begun := (ts.filter fun t => !t.token.isEmpty).map TagLine.key
  OrderedMap.distinct (begun.filter fun key => !doc.contains key)

/-- The keys that were there keep their order and come first. -/
theorem keys_mergeAll_eq_append (doc : Documentation) (ts : List TagLine) :
    (mergeAll doc ts).keys = doc.keys ++ newKeys doc ts := by
  rw [keys_mergeAll, OrderedMap.foldl_addKey, newKeys]
  congr 2
  apply List.filter_congr
  intro key _
  simp [← doc.contains_iff_mem_keys]

variable {ts us : List TagLine}

/-- Each key stands for the same, as only its own lines count. -/
theorem get?_mergeAll_of_interleaved (hlines : TagLine.Interleaved ts us) (doc : Documentation)
    (key : Text) : (mergeAll doc ts).get? key = (mergeAll doc us).get? key := by
  rw [get?_mergeAll, get?_mergeAll, hlines key]

theorem mem_keys_mergeAll_of_interleaved (hlines : TagLine.Interleaved ts us) (doc : Documentation)
    (key : Text) : key ∈ (mergeAll doc ts).keys ↔ key ∈ (mergeAll doc us).keys := by
  rw [← (mergeAll doc ts).contains_iff_mem_keys, ← (mergeAll doc us).contains_iff_mem_keys,
    OrderedMap.contains, OrderedMap.contains, get?_mergeAll_of_interleaved hlines]

/-- Tags do not interfere with each other. -/
theorem mergeAll_interleaved (doc : Documentation) (hlines : TagLine.Interleaved ts us) :
    (∀ key, (mergeAll doc ts).get? key = (mergeAll doc us).get? key) ∧
      (mergeAll doc ts).keys.Perm (mergeAll doc us).keys ∧
      (mergeAll doc ts).keys = doc.keys ++ newKeys doc ts ∧
      (mergeAll doc us).keys = doc.keys ++ newKeys doc us := by
  have hnodup :=
    List.perm_ext_iff_of_nodup (mergeAll doc ts).nodup_keys (mergeAll doc us).nodup_keys
  exact ⟨get?_mergeAll_of_interleaved hlines doc,
    hnodup.2 (mem_keys_mergeAll_of_interleaved hlines doc),
    keys_mergeAll_eq_append doc ts, keys_mergeAll_eq_append doc us⟩

/-- The first line of a tag, one of another tag, and a line that goes on with the first one. -/
def uriLine : TagLine := ⟨"uri".toList, "@apiUri".toList, "@apiUri /blog".toList⟩
def noteLine : TagLine := ⟨"note".toList, "@apiNote".toList, "@apiNote Public".toList⟩
def moreUriLine : TagLine := ⟨"uri".toList, [], "or /blogs".toList⟩

theorem mergeAll_interleaved_uri_note :
    TagLine.Interleaved [uriLine, noteLine, moreUriLine] [noteLine, uriLine, moreUriLine] ∧
      (∀ key, (mergeAll ∅ [uriLine, noteLine, moreUriLine]).get? key =
        (mergeAll ∅ [noteLine, uriLine, moreUriLine]).get? key) ∧
      (mergeAll ∅ [uriLine, noteLine, moreUriLine]).keys = ["uri".toList, "note".toList] ∧
      (mergeAll ∅ [noteLine, uriLine, moreUriLine]).keys = ["note".toList, "uri".toList] := by
  have hlines : TagLine.Interleaved [uriLine, noteLine, moreUriLine]
      [noteLine, uriLine, moreUriLine] :=
    TagLine.Interleaved.swap (by decide) [] [moreUriLine]
  obtain ⟨hget, -, hkeys, hkeys'⟩ := mergeAll_interleaved ∅ hlines
  have hfirst : newKeys ∅ [uriLine, noteLine, moreUriLine] = ["uri".toList, "note".toList] := by
    decide
  have hsecond : newKeys ∅ [noteLine, uriLine, moreUriLine] = ["note".toList, "uri".toList] := by
    decide
  rw [hfirst] at hkeys
  rw [hsecond] at hkeys'
  exact ⟨hlines, hget, hkeys, hkeys'⟩

end Documentation
end VerbDoc
