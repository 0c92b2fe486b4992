/-!
# Mappings that remember the order of insertion

A key stands for at most one value. Giving a key a new value keeps its place; a new key comes
last.
-/
namespace VerbDoc

/-- Entries with pairwise different keys, in the order of their insertion. -/
structure OrderedMap (κ υ : Type) where
  entries : List (κ × υ)
  nodup_keys : (entries.map Prod.fst).Nodup
  deriving DecidableEq

namespace OrderedMap

variable {κ υ ω : Type}

instance [Repr κ] [Repr υ] : Repr (OrderedMap κ υ) where
  reprPrec m n := reprPrec m.entries n

def empty : OrderedMap κ υ := ⟨[], List.nodup_nil⟩

instance : EmptyCollection (OrderedMap κ υ) := ⟨empty⟩
instance : Inhabited (OrderedMap κ υ) := ⟨empty⟩

def keys (m : OrderedMap κ υ) : List κ := m.entries.map Prod.fst

def isEmpty (m : OrderedMap κ υ) : Bool := m.entries.isEmpty

def mapValues (f : υ → ω) (m : OrderedMap κ υ) : OrderedMap κ ω where
  entries := m.entries.map fun e => (e.1, f e.2)
  nodup_keys := by
    have : (m.entries.map fun e => (e.1, f e.2)).map Prod.fst = m.entries.map Prod.fst := by
      simp [Function.comp_def]
    rw [this]
    exact m.nodup_keys

@[ext] theorem ext {m n : OrderedMap κ υ} (h : m.entries = n.entries) : m = n := by
  cases m
  cases n
  cases h
  rfl

variable [DecidableEq κ]

/-- The value of the first entry with the key `k`. -/
def find (k : κ) : List (κ × υ) → Option υ
  | [] => none
  | e :: rest => if e.1 = k then some e.2 else find k rest

def get? (m : OrderedMap κ υ) (k : κ) : Option υ := find k m.entries

def contains (m : OrderedMap κ υ) (k : κ) : Bool := (m.get? k).isSome

/-- Entries with `k` given the value `v`: in place where it has one, else last. -/
def put (k : κ) (v : υ) : List (κ × υ) → List (κ × υ)
  | [] => [(k, v)]
  | e :: rest => if e.1 = k then (k, v) :: rest else e :: put k v rest

theorem map_fst_put (k : κ) (v : υ) (es : List (κ × υ)) :
    (put k v es).map Prod.fst =
      if k ∈ es.map Prod.fst then es.map Prod.fst else es.map Prod.fst ++ [k] := by
  induction es with
  | nil => simp [put]
  | cons e rest ih =>
    rw [put]
    split
    · next h => simp [h]
    · next h =>
      have hk : ¬ k = e.1 := fun e' => h e'.symm
      simp only [List.map_cons, ih, List.mem_cons, hk, false_or]
      split <;> simp

def insert (m : OrderedMap κ υ) (k : κ) (v : υ) : OrderedMap κ υ where
  entries := put k v m.entries
  nodup_keys := by
    rw [map_fst_put]
    split
    · exact m.nodup_keys
    · next h =>
      rw [List.nodup_append]
      refine ⟨m.nodup_keys, by simp, ?_⟩
      intro a ha b hb hab
      rw [List.mem_singleton.1 hb] at hab
      exact h (hab ▸ ha)

def erase (m : OrderedMap κ υ) (k : κ) : OrderedMap κ υ where
  entries := m.entries.filter fun e => e.1 ≠ k
  nodup_keys := (m.nodup_keys).sublist (List.filter_sublist.map _)

/-- Entries given in order, a later value replacing an earlier one of its key in place. -/
def ofList (es : List (κ × υ)) : OrderedMap κ υ :=
  es.foldl (fun m e => m.insert e.1 e.2) empty

end OrderedMap
end VerbDoc
