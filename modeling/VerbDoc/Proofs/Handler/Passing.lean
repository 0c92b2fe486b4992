import VerbDoc.Handler.Operation
import VerbDoc.Proofs.OrderedMap

/-!
# Going through the operations of a class

A class may begin to keep a record of the types of its attributes when its operations are gone
through. The record hides an inherited operation of its name, and nothing else changes. Main
statement: once all operations have been gone through, looking for a verb leaves the class as it is.
-/
namespace VerbDoc

namespace Ancestor

variable {d : DeclaredClass}

abbrev withTypes (d : DeclaredClass) : Ancestor := (declared d).keepTypes

theorem attributes_keepTypes (hlater : SpecialName.types ∉ d.later) :
    (withTypes d).attributes = (declared d).attributes ++ [typeRecord] := by
  simp [keepTypes, attributes, hlater]

theorem not_mem_later_of_find_eq_none
    (hown : OrderedMap.find SpecialName.types (declared d).attributes = none) :
    SpecialName.types ∉ d.later := by
  intro hlater
  rw [OrderedMap.find_eq_none_iff] at hown
  apply hown
  simp [attributes, hlater, typeRecord]

theorem find_attributes_keepTypes (c : Ancestor) {name : Text} (hname : name ≠ SpecialName.types) :
    OrderedMap.find name c.keepTypes.attributes = OrderedMap.find name c.attributes := by
  have hother : SpecialName.types ≠ name := fun heq => hname heq.symm
  cases c with
  | base => rfl
  | declared d =>
    have hrecord : ∀ known : Bool,
        OrderedMap.find name (if known then [typeRecord] else []) = none := by
      intro known
      cases known <;> simp [OrderedMap.find, typeRecord, hother]
    simp only [keepTypes, attributes, OrderedMap.find_append, hrecord]

end Ancestor

namespace Lineage

variable {l : Lineage}

theorem attribute?_keepTypes (l : Lineage) {name : Text} (hname : name ≠ SpecialName.types) :
    l.keepTypes.attribute? name = l.attribute? name := by
  cases l with
  | nil => rfl
  | cons c rest =>
    rw [keepTypes, attribute?_cons, attribute?_cons, c.find_attributes_keepTypes hname]

theorem own?_keepTypes (l : Lineage) {name : Text} (hname : name ≠ SpecialName.types) :
    l.keepTypes.own? name = l.own? name := by
  cases l with
  | nil => rfl
  | cons c rest => exact c.find_attributes_keepTypes hname

theorem withholds_keepTypes (l : Lineage) (o : Operation) :
    l.keepTypes.withholds o = l.withholds o := by
  by_cases hname : o.name = Operation.openName
  · have hother : o.name ≠ SpecialName.types := by
      rw [hname]
      decide
    rw [withholds, withholds, l.own?_keepTypes hother]
  · have hother : (o.name == Operation.openName) = false := by simpa using hname
    rw [withholds, withholds, hother, Bool.false_and, Bool.false_and]

/-- A class with a record of types does not begin to keep another one. -/
theorem typesAt_withTypes (d : DeclaredClass) (rest : Lineage) (o : Operation) :
    typesAt (Ancestor.withTypes d :: rest) o = false := by
  by_cases hname : o.name = SpecialName.types
  · have hfound : (own? (Ancestor.withTypes d :: rest) o.name).isSome = true := by
      rw [hname, own?, List.head?_cons, Option.bind_some, OrderedMap.find_isSome_iff]
      simp [Ancestor.keepTypes, Ancestor.attributes, Ancestor.typeRecord]
    rw [typesAt, Option.isNone_eq_false_iff.2 hfound, Bool.and_false]
  · simp [typesAt, hname]

/-- The record of types hides the inherited operation of its name. -/
theorem operations_withTypes {d : DeclaredClass} {rest : Lineage}
    (hown : OrderedMap.find SpecialName.types (Ancestor.declared d).attributes = none) :
    operations (Ancestor.withTypes d :: rest) =
      (operations (.declared d :: rest)).filter fun o => o.name != SpecialName.types := by
  have hattributes := Ancestor.attributes_keepTypes (Ancestor.not_mem_later_of_find_eq_none hown)
  have hnames := OrderedMap.find_eq_none_iff.1 hown
  -- The record comes last and is no routine, so that the operations of the class itself stay.
  have hsame : ownOperations [] (Ancestor.withTypes d) = ownOperations [] (.declared d) := by
    unfold ownOperations
    rw [hattributes, List.filterMap_append, Ancestor.name_keepTypes]
    simp [Ancestor.typeRecord, Attribute.routine?]
  have hkept : (ownOperations [] (.declared d)).filter (fun o => o.name != SpecialName.types) =
      ownOperations [] (.declared d) := by
    rw [List.filter_eq_self]
    intro o ho
    obtain ⟨e, he, hroutine⟩ := List.mem_filterMap.1 ho
    have hname : e.1 ≠ SpecialName.types := fun heq => hnames (heq ▸ List.mem_map_of_mem he)
    obtain ⟨r, _, rfl⟩ : ∃ r, e.2.routine? = some r ∧ (⟨e.1, _, r⟩ : Operation) = o := by
      simpa using hroutine
    simpa using hname
  rw [operations_cons, operations_cons, hsame, hattributes, List.filter_append, hkept,
    List.filter_filter]
  congr 1
  apply List.filter_congr
  intro o _
  by_cases hname : o.name = SpecialName.types
  · simp [hname, Ancestor.typeRecord]
  · have hother : (o.name != SpecialName.types) = true := by simpa using hname
    simp [hname, hother, Ancestor.typeRecord]

/-- A class begins to keep a record of types where it has none and inherits an operation of that
name. -/
theorem afterPassing_eq (l : Lineage) (ops : List Operation) :
    l.afterPassing ops = l ∨ ∃ d rest, l = .declared d :: rest ∧
      l.afterPassing ops = Ancestor.withTypes d :: rest ∧
      OrderedMap.find SpecialName.types (Ancestor.declared d).attributes = none := by
  unfold afterPassing
  split
  · next hkeeps =>
    rw [keepsTypesAfter, List.any_eq_true] at hkeeps
    obtain ⟨o, _, htypes⟩ := hkeeps
    cases l with
    | nil => exact .inl rfl
    | cons c rest =>
      cases c with
      | base => exact .inl rfl
      | declared d =>
        refine .inr ⟨d, rest, rfl, rfl, ?_⟩
        simp only [typesAt, Bool.and_eq_true, beq_iff_eq, Option.isNone_iff_eq_none] at htypes
        rw [← htypes.1]
        exact htypes.2
  · exact .inl rfl

/-- Looking for a verb leaves a lineage as it is. -/
def IsSettled (l : Lineage) : Prop := ∀ verb, l.afterPassing (l.passed verb) = l

def listed (l : Lineage) : Lineage := l.afterPassing l.operations

/-- Where nothing is withheld, all operations are gone through. -/
theorem keepsTypesAfter_of_not_withheld {ops : List Operation}
    (h : ∀ o ∈ ops, l.withholds o = false) : l.keepsTypesAfter ops = ops.any l.typesAt := by
  have hpass : ∀ o ∈ ops, (!l.withholds o) = true := by
    intro o ho
    rw [h o ho]
    rfl
  rw [keepsTypesAfter, ← List.append_nil ops, List.takeWhile_append_of_pos hpass]
  rfl

/-- Where nothing is withheld, a lineage whose operations have been gone through is settled. -/
theorem isSettled_listed (h : ∀ o ∈ l.operations, l.withholds o = false) : l.listed.IsSettled := by
  intro verb
  rcases l.afterPassing_eq l.operations with hsame | ⟨d, rest, -, hnext, -⟩
  · rw [listed, hsame]
    by_cases hkeeps : l.keepsTypesAfter l.operations = true
    · -- The class has nothing to keep a record in.
      have hkeep : l.keepTypes = l := by rwa [afterPassing, if_pos hkeeps] at hsame
      rw [afterPassing, hkeep, ite_self]
    · apply afterPassing_of_not_typesAt
      intro o ho
      rw [keepsTypesAfter_of_not_withheld h, List.any_eq_true, not_exists] at hkeeps
      simpa [mem_operations_of_mem_passed ho] using hkeeps o
  · rw [listed, hnext]
    exact afterPassing_of_not_typesAt fun o _ => typesAt_withTypes d rest o

theorem attribute?_afterPassing (l : Lineage) (ops : List Operation) {name : Text}
    (hname : name ≠ SpecialName.types) :
    (l.afterPassing ops).attribute? name = l.attribute? name := by
  unfold afterPassing
  split
  · exact l.attribute?_keepTypes hname
  · rfl

theorem attribute?_listed (l : Lineage) {name : Text} (hname : name ≠ SpecialName.types) :
    l.listed.attribute? name = l.attribute? name :=
  l.attribute?_afterPassing l.operations hname

theorem withholds_listed (l : Lineage) (o : Operation) : l.listed.withholds o = l.withholds o := by
  unfold listed afterPassing
  split
  · exact l.withholds_keepTypes o
  · rfl

theorem operations_listed_subset {o : Operation} (ho : o ∈ l.listed.operations) :
    o ∈ l.operations := by
  rcases l.afterPassing_eq l.operations with hsame | ⟨d, rest, rfl, hnext, hown⟩
  · rwa [listed, hsame] at ho
  · rw [listed, hnext, operations_withTypes hown] at ho
    exact (List.mem_filter.1 ho).1

theorem operation?_listed_eq_none {verb : Text} (h : l.operation? verb = none) :
    l.listed.operation? verb = none := by
  rw [operation?, List.find?_eq_none] at h ⊢
  exact fun o ho => h o (operations_listed_subset ho)

/-- Looking for a verb finds the same operation as before, unless that was hidden. -/
theorem operation?_listed {verb : Text} {o : Operation} (ho : l.operation? verb = some o)
    (hname : o.name ≠ SpecialName.types) : l.listed.operation? verb = some o := by
  rcases l.afterPassing_eq l.operations with hsame | ⟨d, rest, rfl, hnext, hown⟩
  · rw [listed, hsame, ho]
  · rw [operation?, List.find?_eq_some_iff_append] at ho
    obtain ⟨hverb, before, after, hops, hbefore⟩ := ho
    rw [listed, hnext, operation?, operations_withTypes hown, hops,
      List.find?_eq_some_iff_append]
    refine ⟨hverb, before.filter fun o => o.name != SpecialName.types,
      after.filter fun o => o.name != SpecialName.types, ?_, ?_⟩
    · rw [List.filter_append, List.filter_cons_of_pos (by simpa using hname)]
    · intro other hother
      exact hbefore other (List.mem_filter.1 hother).1

theorem search_listed (h : ∀ o ∈ l.operations, l.withholds o = false) (verb : Text) :
    l.listed.search verb = .ok (l.listed.operation? verb) := by
  apply search_of_not_withholds
  intro o ho
  rw [withholds_listed]
  exact h o (operations_listed_subset ho)

end Lineage
end VerbDoc
