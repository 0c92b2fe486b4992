import VerbDoc.Text.Basic

/-!
# Lists and sets of texts

A setting that holds several items writes them with commas between them. White space around
an item does not belong to it, and a blank item counts for nothing. A set of texts is kept as its
members in code-point order, each once. Main statement: the members of `sortedSet ts` are the
members of `ts`.
-/
namespace VerbDoc.Text

/-! ## Commas -/

/-- The pieces between commas; `n` commas cut a text into `n + 1` pieces. -/
def splitCommas : Text → List Text
  | [] => [[]]
  | c :: rest =>
    if c = ',' then [] :: splitCommas rest
    else
      match splitCommas rest with
      | [] => [[c]]
      | piece :: more => (c :: piece) :: more

def commaItems (t : Text) : List Text :=
  ((splitCommas t).map trim).filter fun item => !item.isEmpty

theorem splitCommas_ne_nil (t : Text) : splitCommas t ≠ [] := by
  cases t with
  | nil => simp [splitCommas]
  | cons c rest =>
    rw [splitCommas]
    split
    · simp
    · split <;> simp

theorem splitCommas_append (a b : Text) :
    splitCommas (a ++ ',' :: b) = splitCommas a ++ splitCommas b := by
  induction a with
  | nil => simp [splitCommas]
  | cons c r ih =>
    rw [List.cons_append, splitCommas, splitCommas, ih]
    split
    · simp
    · cases h : splitCommas r with
      | nil => exact absurd h (splitCommas_ne_nil r)
      | cons piece more => simp

theorem commaItems_append (a b : Text) :
    commaItems (a ++ ',' :: b) = commaItems a ++ commaItems b := by
  simp [commaItems, splitCommas_append]

theorem not_mem_comma_of_mem_splitCommas {t piece : Text} (h : piece ∈ splitCommas t) :
    ',' ∉ piece := by
  induction t generalizing piece with
  | nil => simp_all [splitCommas]
  | cons c r ih =>
    rw [splitCommas] at h
    split at h
    · rcases List.mem_cons.1 h with rfl | h
      · simp
      · exact ih h
    · next hc =>
      cases hs : splitCommas r with
      | nil => exact absurd hs (splitCommas_ne_nil r)
      | cons first more =>
        rw [hs] at h ih
        rcases List.mem_cons.1 h with rfl | h
        · simp only [List.mem_cons, not_or]
          exact ⟨fun e => hc e.symm, ih (by simp)⟩
        · exact ih (by simp [h])

/-! ## Sets -/

/-- The order of texts by code point; a text comes after its initial parts. -/
def precedes : Text → Text → Bool
  | _, [] => false
  | [], _ :: _ => true
  | a :: as, b :: bs => if a = b then precedes as bs else a.toNat < b.toNat

def insertSorted (t : Text) : List Text → List Text
  | [] => [t]
  | u :: rest =>
    if t = u then u :: rest
    else if precedes t u then t :: u :: rest
    else u :: insertSorted t rest

def sortedSet (ts : List Text) : List Text := ts.foldr insertSorted []

theorem mem_insertSorted {t u : Text} {ts : List Text} :
    u ∈ insertSorted t ts ↔ u = t ∨ u ∈ ts := by
  induction ts with
  | nil => simp [insertSorted]
  | cons v rest ih =>
    rw [insertSorted]
    split
    · next h => simp [h]
    · split
      · simp
      · simp only [List.mem_cons, ih]
        exact or_left_comm

@[simp] theorem mem_sortedSet {u : Text} {ts : List Text} : u ∈ sortedSet ts ↔ u ∈ ts := by
  induction ts with
  | nil => simp [sortedSet]
  | cons t rest ih =>
    rw [List.mem_cons, ← ih]
    exact mem_insertSorted

end VerbDoc.Text
