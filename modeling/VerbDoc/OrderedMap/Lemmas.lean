import VerbDoc.OrderedMap.Basic

/-!
# Laws of ordered mappings

Each operation is described through `keys` and `get?`; two mappings with the same keys in the
same order and the same look-ups are equal.
-/
namespace VerbDoc.OrderedMap

variable {κ υ ω : Type}

@[simp] theorem keys_empty : (empty : OrderedMap κ υ).keys = [] := rfl

@[simp] theorem keys_mapValues (f : υ → ω) (m : OrderedMap κ υ) :
    (m.mapValues f).keys = m.keys := by
  simp [keys, mapValues, Function.comp_def]

variable [DecidableEq κ]

@[simp] theorem get?_empty (k : κ) : (empty : OrderedMap κ υ).get? k = none := rfl

theorem keys_insert (m : OrderedMap κ υ) (k : κ) (v : υ) :
    (m.insert k v).keys = if k ∈ m.keys then m.keys else m.keys ++ [k] :=
  map_fst_put k v m.entries

theorem find_put (k k' : κ) (v : υ) (es : List (κ × υ)) :
    find k' (put k v es) = if k' = k then some v else find k' es := by
  induction es with
  | nil => simp only [put, find, eq_comm]
  | cons e rest ih => grind [put, find]

theorem get?_insert (m : OrderedMap κ υ) (k k' : κ) (v : υ) :
    (m.insert k v).get? k' = if k' = k then some v else m.get? k' :=
  find_put k k' v m.entries

@[simp] theorem get?_insert_self (m : OrderedMap κ υ) (k : κ) (v : υ) :
    (m.insert k v).get? k = some v := by
  simp [get?_insert]

theorem keys_erase (m : OrderedMap κ υ) (k : κ) : (m.erase k).keys = m.keys.filter (· ≠ k) := by
  simp [keys, erase, List.filter_map, Function.comp_def]

theorem find_isSome_iff (es : List (κ × υ)) (k : κ) :
    (find k es).isSome ↔ k ∈ es.map Prod.fst := by
  induction es with
  | nil => simp [find]
  | cons e rest ih => grind [find]

theorem contains_iff_mem_keys (m : OrderedMap κ υ) (k : κ) : m.contains k ↔ k ∈ m.keys :=
  find_isSome_iff m.entries k

theorem get?_eq_none_iff (m : OrderedMap κ υ) (k : κ) : m.get? k = none ↔ k ∉ m.keys := by
  rw [← contains_iff_mem_keys, contains]
  cases m.get? k <;> simp

theorem find_map_values (f : υ → ω) (es : List (κ × υ)) (k : κ) :
    find k (es.map fun e => (e.1, f e.2)) = (find k es).map f := by
  induction es with
  | nil => rfl
  | cons e rest ih =>
    rw [List.map_cons, find, find]
    split
    · rfl
    · exact ih

@[simp] theorem get?_mapValues (f : υ → ω) (m : OrderedMap κ υ) (k : κ) :
    (m.mapValues f).get? k = (m.get? k).map f :=
  find_map_values f m.entries k

end VerbDoc.OrderedMap
