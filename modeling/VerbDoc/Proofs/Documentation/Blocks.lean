import VerbDoc.Documentation.LineRole
import VerbDoc.Proofs.Documentation.Groups
import VerbDoc.Proofs.Text.Trimming

/-!
# Blocks of lines

A line that starts with the marker and a letter opens a block, which owns the lines after it up to
the first one that is blank, foreign or starts with the marker. What documentation a text holds
can be read off its blocks: the keys are the names of the blocks, and the value of a key is made
of the lines of all its blocks in order. Lines outside the blocks do not count.

Main statements: what role the reader gives to each line of a block, and that blocks of trimmed
lines are tidy, so that none of their pieces is empty.
-/
namespace VerbDoc

/-- An opening line, taken apart, and the lines that belong to it. -/
structure Block where
  /-- The letters after the marker, as many as there are. -/
  name : Text
  /-- What comes after the name in the opening line. -/
  tail : Text
  owned : List Text
  deriving DecidableEq, Repr

namespace Marker

/-- The name that a line gives to the block it opens, and what comes after the name. -/
def splitName? (m : Marker) (line : Text) : Option (Text × Text) :=
  (Text.after? m.text line).bind fun rest =>
    if rest.takeWhile Char.isAlpha = [] then none
    else some (rest.takeWhile Char.isAlpha, rest.dropWhile Char.isAlpha)

/-- A line that ends the block before it: a blank or foreign one, or one with the marker. -/
def endsBlock (m : Marker) (line : Text) : Bool :=
  line.isEmpty || line.head?.any LineRole.isForeign || (Text.after? m.text line).isSome

def blocks (m : Marker) : List Text → List Block
  | [] => []
  | line :: rest =>
    match m.splitName? line with
    | some (name, tail) =>
      ⟨name, tail, rest.takeWhile fun l => !m.endsBlock l⟩ :: blocks m rest
    | none => blocks m rest

end Marker

namespace Block

def key (b : Block) : Text := Text.decapitalize b.name

def opening (m : Marker) (b : Block) : Text := m.text ++ b.name ++ b.tail

/-- What the opening line adds: the trimmed text after the name, which begins a group, where white
space follows the name, and the whole line otherwise. -/
def openingPiece (m : Marker) (b : Block) : Piece :=
  if b.tail.head?.any Text.isBlank then ⟨Text.trim b.tail, true⟩ else ⟨b.opening m, false⟩

def pieces (m : Marker) (b : Block) : List Piece :=
  b.openingPiece m :: b.owned.map fun line => ⟨line, false⟩

end Block

/-- The documentation of some blocks: each key at the place of its first block, with the groups of
the pieces of all its blocks. -/
def Documentation.ofBlocks (m : Marker) (bs : List Block) : Documentation :=
  .ofKeys (fun key => .ofGroups
    (Piece.groups ((bs.filter fun b => b.key = key).flatMap (Block.pieces m))))
    (bs.map Block.key)

/-! ## Lines and their roles -/

namespace Marker

theorem splitName?_eq_some_iff {m : Marker} {line name tail : Text} :
    m.splitName? line = some (name, tail) ↔
      line = m.text ++ name ++ tail ∧ name ≠ [] ∧ (∀ c ∈ name, c.isAlpha = true) ∧
        ∀ c, tail.head? = some c → c.isAlpha = false := by
  unfold splitName?
  constructor
  · intro h
    obtain ⟨rest, hrest, hsplit⟩ := Option.bind_eq_some_iff.1 h
    split at hsplit
    · cases hsplit
    · next hname =>
      simp only [Option.some.injEq, Prod.mk.injEq] at hsplit
      obtain ⟨rfl, rfl⟩ := hsplit
      refine ⟨?_, hname, ?_, ?_⟩
      · rw [List.append_assoc, List.takeWhile_append_dropWhile]
        exact Text.after?_eq_some_iff.1 hrest
      · intro c hc
        exact List.all_eq_true.1 List.all_takeWhile c hc
      · intro c hc
        exact Text.head?_dropWhile_eq_false hc
  · rintro ⟨rfl, hname, halpha, htail⟩
    have hstop : tail.takeWhile Char.isAlpha = [] ∧ tail.dropWhile Char.isAlpha = tail := by
      cases tail with
      | nil => simp
      | cons c more => simp [htail c rfl]
    rw [List.append_assoc, Text.after?_append, Option.bind_some,
      List.takeWhile_append_of_pos halpha, List.dropWhile_append_of_pos halpha, hstop.1, hstop.2,
      List.append_nil, if_neg hname]

/-- A line without letters opens no block. -/
theorem splitName?_eq_none {m : Marker} {line : Text} (h : line.any Char.isAlpha = false) :
    m.splitName? line = none := by
  cases hname : m.splitName? line with
  | none => rfl
  | some parts =>
    obtain ⟨hline, hne, hletters, -⟩ := splitName?_eq_some_iff.1 hname
    obtain ⟨c, hc⟩ := List.exists_mem_of_ne_nil _ hne
    exact absurd (hletters c hc) (List.any_eq_false.1 h c (by rw [hline]; simp [hc]))

theorem endsBlock_of_splitName? {m : Marker} {line : Text} {parts : Text × Text}
    (h : m.splitName? line = some parts) : m.endsBlock line = true := by
  obtain ⟨rest, hrest, _⟩ := Option.bind_eq_some_iff.1 h
  simp [endsBlock, hrest]

theorem blocks_cons_of_none {m : Marker} {line : Text} (h : m.splitName? line = none)
    (rest : List Text) : m.blocks (line :: rest) = m.blocks rest := by
  rw [blocks, h]

theorem blocks_cons_of_some {m : Marker} {line : Text} {parts : Text × Text}
    (h : m.splitName? line = some parts) (rest : List Text) :
    m.blocks (line :: rest) =
      ⟨parts.1, parts.2, rest.takeWhile fun l => !m.endsBlock l⟩ :: m.blocks rest := by
  rw [blocks, h]

theorem takeWhile_append_of_stop {p : Text → Bool} {line : Text} (hline : p line = false)
    (before rest : List Text) : (before ++ line :: rest).takeWhile p = before.takeWhile p := by
  induction before with
  | nil => simp [hline]
  | cons first more ih =>
    rw [List.cons_append, List.takeWhile_cons, List.takeWhile_cons, ih]

/-- The lines in front of one that ends a block have their blocks to themselves. -/
theorem blocks_append {m : Marker} {line : Text} (hends : m.endsBlock line = true)
    (before rest : List Text) :
    m.blocks (before ++ line :: rest) = m.blocks before ++ m.blocks (line :: rest) := by
  induction before with
  | nil => rfl
  | cons first more ih =>
    have howned := @takeWhile_append_of_stop (fun l => !m.endsBlock l) line (by simp [hends])
      more rest
    cases hname : m.splitName? first with
    | none =>
      rw [List.cons_append, blocks_cons_of_none hname, blocks_cons_of_none hname]
      exact ih
    | some parts =>
      rw [List.cons_append, blocks_cons_of_some hname, blocks_cons_of_some hname, howned, ih]
      rfl

/-- A line with a name opens the tag of that name. -/
theorem role_of_splitName? {m : Marker} {line name tail : Text}
    (h : m.splitName? line = some (name, tail)) (active : Option Text) :
    m.role line active = .opens (Text.decapitalize name) (m.text ++ name) line := by
  obtain ⟨rest, hrest, hsplit⟩ := Option.bind_eq_some_iff.1 h
  split at hsplit
  · cases hsplit
  · next hname =>
    simp only [Option.some.injEq, Prod.mk.injEq] at hsplit
    obtain ⟨rfl, rfl⟩ := hsplit
    simp [role, hrest, hname]

/-- Any other line that ends a block closes the open tag. -/
theorem role_of_endsBlock {m : Marker} {line : Text} (hname : m.splitName? line = none)
    (hends : m.endsBlock line = true) (active : Option Text) : m.role line active = .closes := by
  unfold role
  cases hafter : Text.after? m.text line with
  | some rest =>
    have hempty : rest.takeWhile Char.isAlpha = [] := by
      simpa [splitName?, hafter] using hname
    simp [hempty]
  | none =>
    cases line with
    | nil => rfl
    | cons c more =>
      have hforeign : LineRole.isForeign c = true := by simpa [endsBlock, hafter] using hends
      simp [hforeign]

/-- A line that ends no block belongs to the open tag, if there is one. -/
theorem role_of_not_endsBlock {m : Marker} {line : Text} (hends : m.endsBlock line = false)
    (active : Option Text) :
    m.role line (active.map (m.text ++ ·)) =
      match active with
      | some name => .continues (Text.decapitalize name) (m.text ++ name) line
      | none => .stray := by
  simp only [endsBlock, Bool.or_eq_false_iff] at hends
  obtain ⟨⟨hempty, hforeign⟩, hafter⟩ := hends
  have hnone : Text.after? m.text line = none := by simpa using hafter
  cases line with
  | nil => simp at hempty
  | cons c more =>
    have hc : LineRole.isForeign c = false := by simpa using hforeign
    obtain ⟨marker, hmarker⟩ := m
    cases active with
    | none => simp [role, hnone, hc]
    | some name =>
      cases marker with
      | nil => exact absurd rfl hmarker
      | cons a rest => simp_all [role]

end Marker

/-! ## Tidy blocks -/

namespace Block

/-- What the lines of a block are when the text is undecorated: trimmed, and none but the first
with the marker. -/
structure IsTidy (m : Marker) (b : Block) : Prop where
  opening_trimmed : Text.Trimmed (b.opening m)
  owned_trimmed : ∀ line ∈ b.owned, Text.Trimmed line
  owned_belongs : ∀ line ∈ b.owned, m.endsBlock line = false

variable {m : Marker} {b : Block}

theorem token_ne_nil (m : Marker) (b : Block) : m.text ++ b.name ≠ [] := by
  intro h
  exact m.ne_nil (List.append_eq_nil_iff.1 h).1

/-- No piece of a block is empty. -/
theorem text_ne_nil_of_mem_pieces (h : b.IsTidy m) {p : Piece} (hp : p ∈ b.pieces m) :
    p.text ≠ [] := by
  rcases List.mem_cons.1 hp with rfl | hp
  · unfold openingPiece
    split
    · next hblank =>
      have htail : b.tail ≠ [] := by
        intro hnil
        simp [hnil] at hblank
      exact Text.trim_ne_nil_of_trimmed_append h.opening_trimmed htail
    · intro hnil
      exact token_ne_nil m b (List.append_eq_nil_iff.1 hnil).1
  · obtain ⟨line, hline, rfl⟩ := List.mem_map.1 hp
    have hbelongs := h.owned_belongs line hline
    intro hnil
    subst hnil
    simp [Marker.endsBlock] at hbelongs

end Block

theorem Marker.isTidy_of_mem_blocks {m : Marker} {lines : List Text}
    (htrimmed : ∀ line ∈ lines, Text.Trimmed line) {b : Block} (hb : b ∈ m.blocks lines) :
    b.IsTidy m := by
  induction lines with
  | nil => simp [blocks] at hb
  | cons line rest ih =>
    have hrest : ∀ l ∈ rest, Text.Trimmed l := fun l hl => htrimmed l (by simp [hl])
    rw [blocks] at hb
    cases hname : m.splitName? line with
    | none =>
      rw [hname] at hb
      exact ih hrest hb
    | some parts =>
      obtain ⟨name, tail⟩ := parts
      rw [hname] at hb
      rcases List.mem_cons.1 hb with rfl | hb
      · have hline : line = m.text ++ name ++ tail := (splitName?_eq_some_iff.1 hname).1
        refine ⟨?_, ?_, ?_⟩
        · rw [Block.opening, ← hline]
          exact htrimmed line (by simp)
        · intro l hl
          exact hrest l (List.takeWhile_subset _ hl)
        · intro l hl
          simpa using List.all_eq_true.1 List.all_takeWhile l hl
      · exact ih hrest hb

end VerbDoc
