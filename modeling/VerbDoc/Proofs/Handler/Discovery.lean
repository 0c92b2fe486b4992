import VerbDoc.Handler.Operation
import VerbDoc.Proofs.OrderedMap

/-!
# Discovery of routines by name

Operations are found by going through the classes of a lineage with the names that are hidden so
far. What they are can also be said name by name: a name is one of an operation if what the nearest
class says that defines it is a routine, and the operations come in the order in which their names
are first defined. Main statement: both ways give the same names, and each operation is the routine
that its name stands for.
-/
namespace VerbDoc

namespace Ancestor

/-- The routine that a class itself has under a name. -/
def routine? (c : Ancestor) (name : Text) : Option Routine :=
  (OrderedMap.find name c.attributes).bind Attribute.routine?

/-- A class has its declared attributes under different names, and whatever else it has is no
routine. -/
theorem exists_attributes_eq_append (c : Ancestor) :
    ∃ declared others, c.attributes = declared ++ others ∧ (declared.map Prod.fst).Nodup ∧
      ∀ e ∈ others, e.2.routine? = none := by
  cases c with
  | base =>
    refine ⟨_, _, rfl, by decide, ?_⟩
    intro e he
    obtain ⟨name, _, rfl⟩ := List.mem_map.1 he
    rfl
  | declared d =>
    refine ⟨d.members.entries.map fun e => (e.1, .member e.2), _, List.append_assoc _ _ _, ?_, ?_⟩
    · simpa [Function.comp_def] using d.members.nodup_keys
    · intro e he
      rcases List.mem_append.1 he with he | he
      · obtain ⟨name, _, rfl⟩ := List.mem_map.1 he
        rfl
      · split at he
        · rw [List.mem_singleton.1 he]
          rfl
        · simp at he

end Ancestor

namespace Lineage

def definedNames (l : Lineage) : List Text :=
  OrderedMap.distinct (l.flatMap fun c => c.attributes.map Prod.fst)

/-- The routine that a name stands for, if that is one. -/
def routine? (l : Lineage) (name : Text) : Option Routine :=
  (l.attribute? name).bind Attribute.routine?

def routineNames (l : Lineage) : List Text :=
  l.definedNames.filter fun name => (l.routine? name).isSome

/-- The names that stand for a routine, in upper case, as far as a whitelist has them. -/
def implementedVerbs (l : Lineage) (whitelist : List Text) : List Text :=
  (l.routineNames.map Text.upper).filter whitelist.contains

def nameFor? (l : Lineage) (verb : Text) : Option Text :=
  l.routineNames.find? fun name => Text.upper name == verb

def routineFor? (l : Lineage) (verb : Text) : Option Routine := (l.nameFor? verb).bind l.routine?

theorem mem_definedNames_of_attribute? {l : Lineage} {name : Text} {a : Attribute}
    (ha : l.attribute? name = some a) : name ∈ l.definedNames := by
  obtain ⟨c, hc, hfound⟩ := List.exists_of_findSome?_eq_some ha
  rw [definedNames, OrderedMap.mem_distinct, List.mem_flatMap]
  refine ⟨c, hc, ?_⟩
  rw [← OrderedMap.find_isSome_iff, hfound]
  rfl

theorem mem_routineNames_of_isSome {l : Lineage} {name : Text}
    (h : (l.routine? name).isSome = true) : name ∈ l.routineNames := by
  obtain ⟨routine, hroutine⟩ := Option.isSome_iff_exists.1 h
  obtain ⟨a, ha, -⟩ := Option.bind_eq_some_iff.1 hroutine
  exact List.mem_filter.2 ⟨mem_definedNames_of_attribute? ha, h⟩

theorem nodup_routineNames (l : Lineage) : l.routineNames.Nodup :=
  (OrderedMap.nodup_distinct _).filter _

/-- The verb of a routine is implemented where the whitelist has it. -/
theorem upper_mem_implementedVerbs_iff {l : Lineage} {name : Text}
    (h : (l.routine? name).isSome = true) {whitelist : List Text} :
    Text.upper name ∈ l.implementedVerbs whitelist ↔ Text.upper name ∈ whitelist := by
  rw [implementedVerbs, List.mem_filter, List.contains_iff_mem]
  exact and_iff_right (List.mem_map_of_mem (mem_routineNames_of_isSome h))

end Lineage

/-! ## A single class -/

namespace Ancestor

theorem ownOperations_eq (c : Ancestor) :
    Lineage.ownOperations [] c =
      c.attributes.filterMap fun e => e.2.routine?.map fun r => ⟨e.1, c.name, r⟩ := by
  simp [Lineage.ownOperations]

/-- A class has each of its operations under the name of the operation. -/
theorem routine?_of_mem_ownOperations {c : Ancestor} {o : Operation}
    (ho : o ∈ Lineage.ownOperations [] c) : c.routine? o.name = some o.routine := by
  obtain ⟨declared, others, hsplit, hnodup, hothers⟩ := c.exists_attributes_eq_append
  rw [ownOperations_eq] at ho
  obtain ⟨e, he, hroutine⟩ := List.mem_filterMap.1 ho
  obtain ⟨r, hr, rfl⟩ := Option.map_eq_some_iff.1 hroutine
  rw [hsplit, List.mem_append] at he
  rcases he with he | he
  · have hfind : OrderedMap.find e.1 c.attributes = some e.2 := by
      rw [hsplit, OrderedMap.find_append, OrderedMap.find_eq_of_mem hnodup he]
      rfl
    rw [routine?, hfind]
    exact hr
  · rw [hothers e he] at hr
    cases hr

theorem mem_names_of_routine? {c : Ancestor} {name : Text} {r : Routine}
    (h : c.routine? name = some r) : name ∈ c.attributes.map Prod.fst := by
  obtain ⟨a, ha, _⟩ := Option.bind_eq_some_iff.1 h
  rw [← OrderedMap.find_isSome_iff, ha]
  rfl

/-- The names of routines, given for which names there is one. -/
theorem map_name_filterMap (owner : Text) {es : List (Text × Attribute)} {p : Text → Bool}
    (hp : ∀ e ∈ es, p e.1 = e.2.routine?.isSome) :
    (es.filterMap fun e => e.2.routine?.map fun r => (⟨e.1, owner, r⟩ : Operation)).map
      Operation.name = (es.map Prod.fst).filter p := by
  induction es with
  | nil => rfl
  | cons e rest ih =>
    have hrest := ih fun e' he' => hp e' (by simp [he'])
    have he := hp e (by simp)
    rw [List.filterMap_cons, List.map_cons, List.filter_cons, he]
    cases hroutine : e.2.routine? <;> simp [hrest]

/-- The operations of a class are its routines, in the order of their names. -/
theorem map_name_ownOperations (c : Ancestor) :
    (Lineage.ownOperations [] c).map Operation.name =
      (OrderedMap.distinct (c.attributes.map Prod.fst)).filter
        fun name => (c.routine? name).isSome := by
  obtain ⟨declared, others, hsplit, hnodup, hothers⟩ := c.exists_attributes_eq_append
  have hnone : others.filterMap (fun e => e.2.routine?.map fun r =>
      (⟨e.1, c.name, r⟩ : Operation)) = [] := by
    rw [List.filterMap_eq_nil_iff]
    intro e he
    rw [hothers e he]
    rfl
  have hfirst : ∀ e ∈ declared, (c.routine? e.1).isSome = e.2.routine?.isSome := by
    intro e he
    rw [routine?, hsplit, OrderedMap.find_append, OrderedMap.find_eq_of_mem hnodup he]
    rfl
  have hrest : ∀ name ∈ others.map Prod.fst, name ∉ declared.map Prod.fst →
      (c.routine? name).isSome = false := by
    intro name _ hnew
    rw [routine?, hsplit, OrderedMap.find_append,
      OrderedMap.find_eq_none_iff.2 hnew, Option.none_or]
    cases hfind : OrderedMap.find name others with
    | none => rfl
    | some a => rw [Option.bind_some, hothers (name, a) (OrderedMap.mem_of_find hfind)]; rfl
  have hnames := map_name_filterMap (p := fun name => (c.routine? name).isSome) c.name hfirst
  rw [ownOperations_eq, hsplit, List.filterMap_append, hnone, List.append_nil, hnames,
    List.map_append, OrderedMap.filter_distinct_append hnodup hrest]

end Ancestor

/-! ## A lineage -/

namespace Lineage

theorem routine?_cons (c : Ancestor) (l : Lineage) (name : Text) :
    routine? (c :: l) name =
      if name ∈ c.attributes.map Prod.fst then c.routine? name else routine? l name := by
  rw [routine?, attribute?_cons, Ancestor.routine?]
  split
  · next a ha =>
    have hmem : name ∈ c.attributes.map Prod.fst := by
      rw [← OrderedMap.find_isSome_iff, ha]
      rfl
    rw [if_pos hmem, ha]
  · next hnone => rw [if_neg (OrderedMap.find_eq_none_iff.1 hnone)]; rfl

/-- The names of the operations are those that stand for a routine. -/
theorem map_name_operations (l : Lineage) : l.operations.map Operation.name = l.routineNames := by
  induction l with
  | nil => rfl
  | cons c rest ih =>
    -- The names that the class itself defines come first; those of its ancestors count where they
    -- are new.
    have hown : (OrderedMap.distinct (c.attributes.map Prod.fst)).filter
        (fun name => (routine? (c :: rest) name).isSome) =
          (ownOperations [] c).map Operation.name := by
      rw [c.map_name_ownOperations]
      apply List.filter_congr
      intro name hname
      rw [routine?_cons, if_pos (OrderedMap.mem_distinct.1 hname)]
    have hinherited : ((OrderedMap.distinct (rest.flatMap fun d => d.attributes.map Prod.fst)).filter
        fun name => !(c.attributes.map Prod.fst).contains name).filter
          (fun name => (routine? (c :: rest) name).isSome) =
        (routineNames rest).filter fun name => !(c.attributes.map Prod.fst).contains name := by
      rw [routineNames, definedNames, List.filter_filter, List.filter_filter]
      apply List.filter_congr
      intro name _
      by_cases hname : name ∈ c.attributes.map Prod.fst
      · simp [hname]
      · rw [routine?_cons, if_neg hname, Bool.and_comm]
    have hnew : ∀ name, (!(c.attributes.map Prod.fst).contains name) = true ↔
        name ∉ c.attributes.map Prod.fst := by simp
    have happend := OrderedMap.distinct_append hnew
      (rest.flatMap fun d => d.attributes.map Prod.fst)
    rw [routineNames, definedNames, List.flatMap_cons, happend, List.filter_append, hown,
      hinherited, ← ih, operations_cons, List.map_append, List.filter_map]
    rfl

/-- Each operation is the routine that its name stands for. -/
theorem routine?_of_mem_operations {l : Lineage} {o : Operation} (ho : o ∈ l.operations) :
    l.routine? o.name = some o.routine := by
  induction l with
  | nil => simp [operations, operationsBeyond] at ho
  | cons c rest ih =>
    rw [operations_cons, List.mem_append] at ho
    rw [routine?_cons]
    rcases ho with ho | ho
    · have hown := Ancestor.routine?_of_mem_ownOperations ho
      rw [if_pos (Ancestor.mem_names_of_routine? hown), hown]
    · obtain ⟨hmem, hnew⟩ := List.mem_filter.1 ho
      rw [if_neg (by simpa using hnew)]
      exact ih hmem

/-- The verbs of a class are the upper cases of the names that stand for a routine. -/
theorem implementedVerbs_eq (l : Lineage) (whitelist : List Text) :
    l.implementedVerbs whitelist = l.verbs whitelist := by
  rw [implementedVerbs, verbs, ← map_name_operations, List.map_map]
  rfl

theorem mem_implementedVerbs_of_nameFor? {l : Lineage} {whitelist : List Text} {verb name : Text}
    (hlisted : verb ∈ whitelist)
    (hname : l.nameFor? verb = some name) : verb ∈ l.implementedVerbs whitelist := by
  have hupper : Text.upper name = verb := by simpa using List.find?_some hname
  refine List.mem_filter.2 ⟨?_, by simpa using hlisted⟩
  rw [← hupper]
  exact List.mem_map_of_mem (List.mem_of_find?_eq_some hname)

theorem exists_operation?_of_mem {l : Lineage} {o : Operation} (ho : o ∈ l.operations) :
    ∃ first, l.operation? o.verb = some first := by
  rw [← Option.isSome_iff_exists, operation?, List.find?_isSome]
  exact ⟨o, ho, by simp⟩

/-- The operation for a verb has the first name that is the verb in upper case. -/
theorem map_name_operation? (l : Lineage) (verb : Text) :
    (l.operation? verb).map Operation.name = l.nameFor? verb := by
  rw [nameFor?, ← map_name_operations, List.find?_map]
  rfl

theorem map_routine_operation? (l : Lineage) (verb : Text) :
    (l.operation? verb).map Operation.routine = l.routineFor? verb := by
  rw [routineFor?, ← map_name_operation?]
  cases ho : l.operation? verb with
  | none => rfl
  | some o =>
    have hmem : o ∈ l.operations := List.mem_of_find?_eq_some ho
    exact (routine?_of_mem_operations hmem).symm

end Lineage
end VerbDoc
