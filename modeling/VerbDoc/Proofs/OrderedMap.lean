import VerbDoc.OrderedMap.Lemmas

/-!
# Ordered mappings through their keys

A mapping is determined by its keys in order and by its look-ups, so that an operation is pinned
down by what it does to either. `ofKeys` builds a mapping from the keys alone: each key stands at
its first occurrence. Main statements: two mappings with the same keys and the same look-ups are
equal, and adding keys one after another leaves each at its first occurrence.
-/
namespace VerbDoc.OrderedMap

variable {κ υ : Type} [DecidableEq κ]

theorem find_append (k : κ) (es more : List (κ × υ)) :
    find k (es ++ more) = (find k es).or (find k more) := by
  induction es with
  | nil => rfl
  | cons e rest ih => by_cases h : e.1 = k <;> simp [find, h, ih]

theorem find_eq_none_iff {k : κ} {es : List (κ × υ)} :
    find k es = none ↔ k ∉ es.map Prod.fst := by
  rw [← find_isSome_iff]
  cases find k es <;> simp

theorem mem_of_find {k : κ} {v : υ} {es : List (κ × υ)} (h : find k es = some v) :
    (k, v) ∈ es := by
  induction es with
  | nil => cases h
  | cons e rest ih =>
    rw [find] at h
    by_cases hk : e.1 = k
    · rw [if_pos hk] at h
      obtain rfl := Option.some.inj h
      simp [← hk]
    · rw [if_neg hk] at h
      exact List.mem_cons_of_mem _ (ih h)

theorem find_eq_of_mem {es : List (κ × υ)} (hnodup : (es.map Prod.fst).Nodup) {e : κ × υ}
    (he : e ∈ es) : find e.1 es = some e.2 := by
  induction es with
  | nil => simp at he
  | cons first rest ih =>
    rw [List.map_cons, List.nodup_cons] at hnodup
    rw [find]
    rcases List.mem_cons.1 he with rfl | hrest
    · simp
    · have hne : first.1 ≠ e.1 := by
        intro heq
        exact hnodup.1 (heq ▸ List.mem_map_of_mem hrest)
      rw [if_neg hne]
      exact ih hnodup.2 hrest

theorem mem_keys_of_get? {m : OrderedMap κ υ} {k : κ} {v : υ} (h : m.get? k = some v) :
    k ∈ m.keys :=
  List.mem_map_of_mem (mem_of_find h)

theorem exists_get?_of_mem_keys {m : OrderedMap κ υ} {k : κ} (hk : k ∈ m.keys) :
    ∃ v, m.get? k = some v :=
  Option.isSome_iff_exists.1 ((m.contains_iff_mem_keys k).2 hk)

/-- One entry alone has its key. -/
theorem filter_key_of_mem {es : List (κ × υ)} (hnodup : (es.map Prod.fst).Nodup) {e : κ × υ}
    (he : e ∈ es) : (es.filter fun e' => e'.1 = e.1) = [e] := by
  induction es with
  | nil => simp at he
  | cons first rest ih =>
    rw [List.map_cons, List.nodup_cons] at hnodup
    obtain ⟨hfirst, hrest⟩ := hnodup
    rcases List.mem_cons.1 he with rfl | he
    · rw [List.filter_cons_of_pos (by simp)]
      congr 1
      rw [List.filter_eq_nil_iff]
      intro other hother
      have hne : other.1 ≠ e.1 := fun heq => hfirst (heq ▸ List.mem_map_of_mem hother)
      simpa using hne
    · have hne : first.1 ≠ e.1 := fun heq => hfirst (heq ▸ List.mem_map_of_mem he)
      rw [List.filter_cons_of_neg (by simpa using hne)]
      exact ih hrest he

/-- The entries are the keys, each with what is found under it. -/
theorem map_some_entries (m : OrderedMap κ υ) :
    m.entries.map (fun e => (e.1, some e.2)) = m.keys.map fun k => (k, m.get? k) := by
  rw [keys, List.map_map]
  apply List.map_congr_left
  intro e he
  have hfound : m.get? e.1 = some e.2 := find_eq_of_mem m.nodup_keys he
  simp [hfound]

theorem eq_of_keys_eq {m n : OrderedMap κ υ} (hkeys : m.keys = n.keys)
    (hget : ∀ k ∈ m.keys, m.get? k = n.get? k) : m = n := by
  have hentries : m.entries.map (fun e => (e.1, some e.2)) =
      n.entries.map (fun e => (e.1, some e.2)) := by
    rw [map_some_entries, map_some_entries, ← hkeys]
    apply List.map_congr_left
    intro k hk
    rw [hget k hk]
  apply OrderedMap.ext
  refine (List.map_inj_right ?_).1 hentries
  intro a b hab
  simpa [Prod.ext_iff] using hab

/-! ## Entries that are put in place or last -/

theorem put_of_mem {k : κ} {es : List (κ × υ)} (hnodup : (es.map Prod.fst).Nodup)
    (hk : k ∈ es.map Prod.fst) (v : υ) :
    put k v es = es.map fun e => if e.1 = k then (k, v) else e := by
  induction es with
  | nil => simp at hk
  | cons e rest ih =>
    rw [List.map_cons, List.nodup_cons] at hnodup
    rw [put, List.map_cons]
    by_cases he : e.1 = k
    · have hrest : ∀ e' ∈ rest, e'.1 ≠ k := by
        intro e' he' heq
        exact hnodup.1 (he.trans heq.symm ▸ List.mem_map_of_mem he')
      have hsame : rest.map (fun e' => if e'.1 = k then (k, v) else e') = rest := by
        rw [List.map_congr_left fun e' he' => if_neg (hrest e' he'), List.map_id']
      rw [if_pos he, if_pos he, hsame]
    · have hmem : k ∈ rest.map Prod.fst := by
        rcases List.mem_cons.1 hk with heq | hmem
        · exact absurd heq.symm he
        · exact hmem
      rw [if_neg he, if_neg he, ih hnodup.2 hmem]

theorem put_append_of_not_mem {k : κ} {es : List (κ × υ)} (hk : k ∉ es.map Prod.fst) (v : υ)
    (more : List (κ × υ)) : put k v (es ++ more) = es ++ put k v more := by
  induction es with
  | nil => rfl
  | cons e rest ih =>
    rw [List.map_cons, List.mem_cons, not_or] at hk
    have hne : e.1 ≠ k := fun heq => hk.1 heq.symm
    rw [List.cons_append, put, if_neg hne, ih hk.2, List.cons_append]

theorem put_of_not_mem {k : κ} {es : List (κ × υ)} (hk : k ∉ es.map Prod.fst) (v : υ) :
    put k v es = es ++ [(k, v)] := by
  have happend := put_append_of_not_mem hk v []
  rwa [List.append_nil] at happend

theorem mem_put {k : κ} {v : υ} {es : List (κ × υ)} {e : κ × υ} (he : e ∈ put k v es) :
    e = (k, v) ∨ e ∈ es := by
  induction es with
  | nil => exact .inl (List.mem_singleton.1 he)
  | cons first rest ih =>
    rw [put] at he
    split at he
    · rcases List.mem_cons.1 he with heq | he
      · exact .inl heq
      · exact .inr (List.mem_cons_of_mem _ he)
    · rcases List.mem_cons.1 he with rfl | he
      · exact .inr List.mem_cons_self
      · exact (ih he).imp id (List.mem_cons_of_mem _)

/-- A selection by key takes part in what is put in. -/
theorem filter_put_of_pos {p : κ → Bool} {k : κ} (hp : p k = true) (v : υ)
    (es : List (κ × υ)) :
    ((put k v es).filter fun e => p e.1) = put k v (es.filter fun e => p e.1) := by
  induction es with
  | nil => simp [put, hp]
  | cons e rest ih =>
    by_cases he : e.1 = k
    · simp [put, he, hp]
    · rw [put, if_neg he, List.filter_cons, ih, List.filter_cons]
      cases p e.1 with
      | true => simp [put, he]
      | false => simp

theorem filter_put_of_neg {p : κ → Bool} {k : κ} (hp : p k = false) (v : υ)
    (es : List (κ × υ)) :
    ((put k v es).filter fun e => p e.1) = es.filter fun e => p e.1 := by
  induction es with
  | nil => simp [put, hp]
  | cons e rest ih =>
    by_cases he : e.1 = k
    · simp [put, he, hp]
    · rw [put, if_neg he, List.filter_cons, ih, List.filter_cons]

/-- Under a selected key a selection has what was there. -/
theorem find_filter_of_pos {p : κ → Bool} {k : κ} (hp : p k = true) (es : List (κ × υ)) :
    find k (es.filter fun e => p e.1) = find k es := by
  induction es with
  | nil => rfl
  | cons e rest ih =>
    by_cases he : e.1 = k
    · simp [find, he, hp]
    · rw [find, if_neg he, ← ih, List.filter_cons]
      cases p e.1 with
      | true => simp [find, he]
      | false => simp

theorem find_map_key {α : Type} (key : α → κ) (k : κ) (as : List α) :
    find k (as.map fun a => (key a, a)) = as.find? fun a => key a = k := by
  induction as with
  | nil => rfl
  | cons a rest ih =>
    rw [List.map_cons, find, ih, List.find?_cons]
    by_cases ha : key a = k <;> simp [ha]

/-! ## Keys in the order of their first occurrence -/

/-- The keys with one more, which comes last unless it is there already. -/
def addKey (ks : List κ) (k : κ) : List κ := if k ∈ ks then ks else ks ++ [k]

theorem keys_insert_eq_addKey (m : OrderedMap κ υ) (k : κ) (v : υ) :
    (m.insert k v).keys = addKey m.keys k := m.keys_insert k v

def distinct (ks : List κ) : List κ := ks.eraseDups

@[simp] theorem mem_distinct {ks : List κ} {k : κ} : k ∈ distinct ks ↔ k ∈ ks :=
  List.mem_eraseDups

theorem distinct_cons (k : κ) (ks : List κ) :
    distinct (k :: ks) = k :: distinct (ks.filter (· ≠ k)) := by
  rw [distinct, List.eraseDups_cons, distinct]
  congr 2
  apply List.filter_congr
  intro other _
  by_cases h : other = k <;> simp [h]

/-- Keys that are added in order follow those that were there, each at its first occurrence. -/
theorem foldl_addKey (more ks : List κ) :
    more.foldl addKey ks = ks ++ distinct (more.filter (· ∉ ks)) := by
  induction more generalizing ks with
  | nil => simp [distinct]
  | cons k rest ih =>
    rw [List.foldl_cons, ih, addKey]
    by_cases hk : k ∈ ks
    · rw [if_pos hk, List.filter_cons_of_neg (by simpa using hk)]
    · rw [if_neg hk, List.filter_cons_of_pos (by simpa using hk), distinct_cons,
        List.append_assoc, List.singleton_append, List.filter_filter]
      congr 3
      apply List.filter_congr
      intro other _
      by_cases hother : other = k <;> simp [hother]

theorem foldl_addKey_nil (ks : List κ) : ks.foldl addKey [] = distinct ks := by
  rw [foldl_addKey, List.nil_append, List.filter_eq_self.2 (by simp)]

/-- Keys that fail a test may be left out before or after. -/
theorem foldl_addKey_filter (p : κ → Bool) (more ks : List κ) :
    (more.filter p).foldl addKey (ks.filter p) = (more.foldl addKey ks).filter p := by
  induction more generalizing ks with
  | nil => rfl
  | cons k rest ih =>
    rw [List.foldl_cons, ← ih]
    cases hp : p k with
    | true =>
      have hadd : addKey (ks.filter p) k = (addKey ks k).filter p := by
        by_cases hk : k ∈ ks <;> simp [addKey, hk, hp]
      rw [List.filter_cons_of_pos hp, List.foldl_cons, hadd]
    | false =>
      have hadd : (addKey ks k).filter p = ks.filter p := by
        by_cases hk : k ∈ ks <;> simp [addKey, hk, hp]
      rw [List.filter_cons_of_neg (by simp [hp]), hadd]

theorem distinct_filter (p : κ → Bool) (ks : List κ) :
    distinct (ks.filter p) = (distinct ks).filter p := by
  rw [← foldl_addKey_nil, ← foldl_addKey_nil, ← foldl_addKey_filter, List.filter_nil]

/-- Keys that come later count where they are new. -/
theorem distinct_append {ks : List κ} {isNew : κ → Bool} (hnew : ∀ k, isNew k = true ↔ k ∉ ks)
    (more : List κ) : distinct (ks ++ more) = distinct ks ++ (distinct more).filter isNew := by
  rw [← foldl_addKey_nil, List.foldl_append, foldl_addKey_nil, foldl_addKey, ← distinct_filter]
  congr 2
  apply List.filter_congr
  intro k _
  by_cases hk : k ∈ ks
  · have hold : isNew k = false := by simp [← Bool.not_eq_true, hnew, hk]
    simp [hk, hold]
  · simp [hk, (hnew k).2 hk]

theorem distinct_eq_self {ks : List κ} (h : ks.Nodup) : distinct ks = ks := by
  induction ks with
  | nil => rfl
  | cons k rest ih =>
    rw [List.nodup_cons] at h
    have hrest : rest.filter (· ≠ k) = rest := by
      rw [List.filter_eq_self]
      intro other hother
      have hne : other ≠ k := fun heq => h.1 (heq ▸ hother)
      simpa using hne
    rw [distinct_cons, hrest, ih h.2]

/-- Later keys that fail a test may be left out. -/
theorem filter_distinct_append {p : κ → Bool} {ks more : List κ} (hks : ks.Nodup)
    (hmore : ∀ k ∈ more, k ∉ ks → p k = false) :
    (distinct (ks ++ more)).filter p = ks.filter p := by
  have hnone : ((distinct more).filter (· ∉ ks)).filter p = [] := by
    rw [List.filter_eq_nil_iff]
    intro k hk
    obtain ⟨hmem, hnew⟩ := List.mem_filter.1 hk
    simp [hmore k (mem_distinct.1 hmem) (by simpa using hnew)]
  have happend := distinct_append (fun k => decide_eq_true_iff (p := k ∉ ks)) more
  rw [happend, distinct_eq_self hks, List.filter_append, hnone, List.append_nil]

/-- The same key over and over is added once. -/
theorem foldl_addKey_const {more : List κ} {k : κ} (hmore : more ≠ []) (hk : ∀ k' ∈ more, k' = k)
    (ks : List κ) : more.foldl addKey ks = addKey ks k := by
  induction more generalizing ks with
  | nil => exact absurd rfl hmore
  | cons first rest ih =>
    obtain rfl : first = k := hk first (by simp)
    rw [List.foldl_cons]
    cases rest with
    | nil => rfl
    | cons second others =>
      have htwice : addKey (addKey ks first) first = addKey ks first := by
        by_cases hmem : first ∈ ks <;> simp [addKey, hmem]
      rw [ih (by simp) fun k' hk' => hk k' (by simp [hk']), htwice]

/-- Parts with one key each bring in no other keys. -/
theorem distinct_flatMap {β : Type} {key : β → κ} {part : β → List κ} {bs : List β}
    (hpart : ∀ b ∈ bs, part b ≠ [] ∧ ∀ k ∈ part b, k = key b) :
    distinct (bs.flatMap part) = distinct (bs.map key) := by
  have hfold : ∀ ks : List κ,
      (bs.flatMap part).foldl addKey ks = (bs.map key).foldl addKey ks := by
    induction bs with
    | nil => intro ks; rfl
    | cons b rest ih =>
      intro ks
      obtain ⟨hne, hkeys⟩ := hpart b (by simp)
      rw [List.flatMap_cons, List.foldl_append, foldl_addKey_const hne hkeys,
        ih fun b' hb' => hpart b' (by simp [hb'])]
      rfl
  rw [← foldl_addKey_nil, hfold, foldl_addKey_nil]

/-- What is filtered out of parts that pass or fail as a whole is some of the parts. -/
theorem filter_flatMap_of_const {α β : Type} {p : α → Bool} {q : β → Bool} {part : β → List α}
    {bs : List β} (hpart : ∀ b ∈ bs, ∀ a ∈ part b, p a = q b) :
    (bs.flatMap part).filter p = (bs.filter q).flatMap part := by
  induction bs with
  | nil => rfl
  | cons b rest ih =>
    have hrest := ih fun b' hb' => hpart b' (by simp [hb'])
    rw [List.flatMap_cons, List.filter_append, hrest]
    cases hq : q b with
    | true =>
      have hall : (part b).filter p = part b := by
        rw [List.filter_eq_self]
        intro a ha
        rw [hpart b (by simp) a ha, hq]
      rw [hall, List.filter_cons_of_pos hq, List.flatMap_cons]
    | false =>
      have hnone : (part b).filter p = [] := by
        rw [List.filter_eq_nil_iff]
        intro a ha
        simp [hpart b (by simp) a ha, hq]
      rw [hnone, List.filter_cons_of_neg (by simp [hq]), List.nil_append]

/-- Inserting keys one after another, each with some value of its own. -/
theorem keys_foldl_insert (f : κ → υ) (ks : List κ) (m : OrderedMap κ υ) :
    (ks.foldl (fun m k => m.insert k (f k)) m).keys = ks.foldl addKey m.keys := by
  induction ks generalizing m with
  | nil => rfl
  | cons k rest ih => rw [List.foldl_cons, List.foldl_cons, ih, keys_insert_eq_addKey]

theorem nodup_distinct (ks : List κ) : (distinct ks).Nodup := by
  have hkeys := keys_foldl_insert (fun _ => ()) ks (empty : OrderedMap κ Unit)
  rw [keys_empty, foldl_addKey_nil] at hkeys
  rw [← hkeys]
  exact (ks.foldl (fun m k => m.insert k ()) empty).nodup_keys

/-- Each key at its first occurrence, with its value under `f`. -/
def ofKeys (f : κ → υ) (ks : List κ) : OrderedMap κ υ where
  entries := (distinct ks).map fun k => (k, f k)
  nodup_keys := by
    simpa [Function.comp_def] using nodup_distinct ks

@[simp] theorem keys_ofKeys (f : κ → υ) (ks : List κ) : (ofKeys f ks).keys = distinct ks := by
  simp [keys, ofKeys, Function.comp_def]

theorem get?_ofKeys (f : κ → υ) {ks : List κ} {k : κ} (hk : k ∈ ks) :
    (ofKeys f ks).get? k = some (f k) := by
  have hmem : (k, f k) ∈ (ofKeys f ks).entries :=
    List.mem_map_of_mem (mem_distinct.2 hk)
  exact find_eq_of_mem (ofKeys f ks).nodup_keys hmem

theorem get?_ofKeys_of_not_mem (f : κ → υ) {ks : List κ} {k : κ} (hk : k ∉ ks) :
    (ofKeys f ks).get? k = none := by
  rw [get?_eq_none_iff, keys_ofKeys, mem_distinct]
  exact hk

/-- A mapping with these keys and these values is the one that is built from them. -/
theorem eq_ofKeys {m : OrderedMap κ υ} {f : κ → υ} {ks : List κ} (hkeys : m.keys = distinct ks)
    (hget : ∀ k ∈ ks, m.get? k = some (f k)) : m = ofKeys f ks := by
  refine eq_of_keys_eq (by rw [hkeys, keys_ofKeys]) ?_
  intro k hk
  rw [hkeys, mem_distinct] at hk
  rw [hget k hk, get?_ofKeys f hk]

theorem get?_foldl_insert (f : κ → υ) (ks : List κ) (m : OrderedMap κ υ) (k : κ) :
    (ks.foldl (fun m k => m.insert k (f k)) m).get? k =
      if k ∈ ks then some (f k) else m.get? k := by
  induction ks generalizing m with
  | nil => simp
  | cons first rest ih =>
    rw [List.foldl_cons, ih, get?_insert]
    by_cases hrest : k ∈ rest
    · simp [hrest]
    · by_cases hfirst : k = first <;> simp [hrest, hfirst]

/-- Inserting keys one after another into nothing builds a mapping from them. -/
theorem foldl_insert_eq_ofKeys (f : κ → υ) (ks : List κ) :
    ks.foldl (fun m k => m.insert k (f k)) ∅ = ofKeys f ks := by
  apply eq_ofKeys
  · rw [keys_foldl_insert]
    exact foldl_addKey_nil ks
  · intro k hk
    rw [get?_foldl_insert, if_pos hk]

/-! ## Mappings from entries in order -/

theorem keys_ofList (es : List (κ × υ)) : (ofList es).keys = distinct (es.map Prod.fst) := by
  have hfold : ∀ m : OrderedMap κ υ, (es.foldl (fun m e => m.insert e.1 e.2) m).keys =
      (es.map Prod.fst).foldl addKey m.keys := by
    induction es with
    | nil => intro m; rfl
    | cons e rest ih =>
      intro m
      rw [List.foldl_cons, ih, keys_insert_eq_addKey]
      rfl
  rw [ofList, hfold, keys_empty, foldl_addKey_nil]

/-- Of several entries with one key the last one counts. -/
theorem get?_ofList (es : List (κ × υ)) (k : κ) : (ofList es).get? k = find k es.reverse := by
  have hfold : ∀ m : OrderedMap κ υ, (es.foldl (fun m e => m.insert e.1 e.2) m).get? k =
      (find k es.reverse).or (m.get? k) := by
    induction es with
    | nil => intro m; rfl
    | cons e rest ih =>
      intro m
      rw [List.foldl_cons, ih, List.reverse_cons, find_append, Option.or_assoc, get?_insert]
      congr 1
      by_cases hk : k = e.1
      · simp [find, hk]
      · have hne : e.1 ≠ k := fun heq => hk heq.symm
        simp [find, hk, hne]
  rw [ofList, hfold, get?_empty, Option.or_none]

/-- Entries with different keys stay as they are. -/
theorem entries_ofList {es : List (κ × υ)} (hnodup : (es.map Prod.fst).Nodup) :
    (ofList es).entries = es := by
  have hfold : ∀ m : OrderedMap κ υ, ((m.entries ++ es).map Prod.fst).Nodup →
      (es.foldl (fun m e => m.insert e.1 e.2) m).entries = m.entries ++ es := by
    clear hnodup
    induction es with
    | nil => intro m _; exact (List.append_nil _).symm
    | cons e rest ih =>
      intro m hall
      have hnew : e.1 ∉ m.entries.map Prod.fst := by
        rw [List.map_append, List.nodup_append] at hall
        intro hmem
        exact hall.2.2 e.1 hmem e.1 (by simp) rfl
      have hinsert : (m.insert e.1 e.2).entries = m.entries ++ [e] := put_of_not_mem hnew e.2
      rw [List.foldl_cons, ih, hinsert, List.append_assoc]
      · rfl
      · rw [hinsert, List.append_assoc]
        exact hall
  exact hfold empty hnodup

end VerbDoc.OrderedMap
