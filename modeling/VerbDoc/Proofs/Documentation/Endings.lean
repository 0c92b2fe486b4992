import VerbDoc.Proofs.Documentation.Reading
import VerbDoc.Proofs.Text.Layout

/-!
# Documentation and line endings

The lines of a text are all that its documentation depends on, so that the endings between them may
be changed. Main statement: the undecorated lines of a text are those of its layout, and a text has
the documentation of the same lines with LF between them.
-/
namespace VerbDoc

namespace Documentation

theorem undecoratedLines_some (t : Text) :
    undecoratedLines (some t) = if t = [] then [] else (Text.lines t).map undecorate := by
  cases t <;> rfl

end Documentation

namespace Marker

open Documentation

def blocksIn (m : Marker) (t : Text) : List Block := m.blocks ((Text.lines t).map undecorate)

/-- An empty text may be read as the empty line that it is, which opens no block. -/
theorem blocks_undecoratedLines (m : Marker) (t : Text) :
    m.blocks (undecoratedLines (some t)) = m.blocksIn t := by
  rw [undecoratedLines_some]
  split
  · next hnil =>
    subst hnil
    have hopens : m.splitName? (undecorate []) = none := splitName?_eq_none (by decide)
    exact (blocks_cons_of_none hopens []).symm
  · rfl

/-- The documentation in a text is that of its blocks. -/
theorem parse_some (m : Marker) (t : Text) : m.parse (some t) = ofBlocks m (m.blocksIn t) := by
  rw [← blocks_undecoratedLines]
  exact foldl_step_eq_ofBlocks m fun _ => trimmed_of_mem_undecoratedLines

/-- Lines without CR and LF have the documentation of their blocks, whichever ending is used. -/
theorem parse_joinWith (m : Marker) (ending : Text.LineEnding) {parts : List Text}
    (hparts : ∀ part ∈ parts, Text.OneLine part) :
    m.parse (some (Text.joinWith ending.text parts)) =
      ofBlocks m (m.blocks (parts.map undecorate)) := by
  cases parts with
  | nil =>
    show m.parse (some []) = _
    rw [parse_some, ← blocks_undecoratedLines]
    rfl
  | cons first rest => rw [parse_some, blocksIn, Text.lines_joinWith ending (by simp) hparts]

/-- The endings between the lines of a text do not count, and each text has one layout. -/
theorem parse_layout (m : Marker) :
    (∀ d : Text.Layout,
      undecoratedLines (some d.text) = (if d.text = [] then [] else d.lines.map undecorate) ∧
        m.parse (some d.text) = m.parse (some (Text.joinWith ['\n'] d.lines))) ∧
      ∀ t : Text, ∃! d : Text.Layout, d.text = t := by
  refine ⟨fun d => ⟨?_, ?_⟩, Text.Layout.existsUnique_text_eq⟩
  · rw [undecoratedLines_some, Text.Layout.lines_text]
  · rw [parse_some, blocksIn, Text.Layout.lines_text]
    exact (parse_joinWith m .lf d.oneLine_of_mem_lines).symm

end Marker
end VerbDoc
