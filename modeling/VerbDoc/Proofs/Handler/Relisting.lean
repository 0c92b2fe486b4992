import VerbDoc.Proofs.Handler.Discovery
import VerbDoc.Proofs.Handler.Passing

/-!
# Listing verbs again

Listing the verbs of a class goes through its operations, which the class may notice: it may
withhold one, or begin to keep a record that hides one. Main statement: a declared class lists the
same verbs again exactly where it inherits no routine under either of the two names that this
depends on.
-/
namespace VerbDoc.Lineage

variable {l : Lineage} {whitelist : List Text}

/-- The verbs can be listed, and listing them again gives the same. -/
structure ListsSteadily (l : Lineage) (whitelist : List Text) : Prop where
  not_withheld : ∀ o ∈ l.operations, l.withholds o = false
  verbs_listed : l.listed.verbs whitelist = l.verbs whitelist

/-- What the class has under the name of what it has yet to define is its own if it is a routine,
and so is what it has under the name of its record of types if that is a verb. -/
structure OwnsSpecialRoutines (l : Lineage) (whitelist : List Text) : Prop where
  open_defined : Operation.openName ∈ l.routineNames → (l.own? Operation.openName).isSome = true
  types_defined : SpecialName.types ∈ l.routineNames →
    Text.upper SpecialName.types ∈ whitelist → (l.own? SpecialName.types).isSome = true

instance (l : Lineage) (whitelist : List Text) : Decidable (l.OwnsSpecialRoutines whitelist) :=
  decidable_of_iff
    ((l.routineNames.contains Operation.openName = true →
        (l.own? Operation.openName).isSome = true) ∧
      (l.routineNames.contains SpecialName.types = true →
        whitelist.contains (Text.upper SpecialName.types) = true →
          (l.own? SpecialName.types).isSome = true)) <| by
    simp only [List.contains_iff_mem]
    exact ⟨fun h => ⟨h.1, h.2⟩, fun h => ⟨h.open_defined, h.types_defined⟩⟩

theorem mem_routineNames_iff {name : Text} :
    name ∈ l.routineNames ↔ ∃ o ∈ l.operations, o.name = name := by
  rw [← map_name_operations, List.mem_map]

theorem not_withheld_iff : (∀ o ∈ l.operations, l.withholds o = false) ↔
    (Operation.openName ∈ l.routineNames → (l.own? Operation.openName).isSome = true) := by
  constructor
  · intro hopen hmem
    obtain ⟨o, ho, hname⟩ := mem_routineNames_iff.1 hmem
    have hwithheld := hopen o ho
    rw [withholds, hname, beq_self_eq_true, Bool.true_and] at hwithheld
    exact Option.isNone_eq_false_iff.1 hwithheld
  · intro hdefined o ho
    by_cases hname : o.name = Operation.openName
    · have hown := hdefined (mem_routineNames_iff.2 ⟨o, ho, hname⟩)
      rw [withholds, hname, Option.isNone_eq_false_iff.2 hown, Bool.and_false]
    · simp [withholds, hname]

/-! ## The record of types -/

/-- Going through the operations again changes nothing more. -/
theorem listed_listed (l : Lineage) : l.listed.listed = l.listed := by
  rcases l.afterPassing_eq l.operations with hsame | ⟨d, rest, -, hnext, -⟩
  · have hlisted : l.listed = l := hsame
    rw [hlisted, hlisted]
  · have hlisted : l.listed = Ancestor.withTypes d :: rest := hnext
    rw [hlisted]
    exact afterPassing_of_not_typesAt fun o _ => typesAt_withTypes d rest o

theorem mem_operations_listed {o : Operation} (ho : o ∈ l.operations)
    (hname : o.name ≠ SpecialName.types) : o ∈ l.listed.operations := by
  rcases l.afterPassing_eq l.operations with hsame | ⟨d, rest, rfl, hnext, hown⟩
  · rwa [listed, hsame]
  · rw [listed, hnext, operations_withTypes hown]
    exact List.mem_filter.2 ⟨ho, by simpa using hname⟩

/-- A class that withholds an operation still does when its operations have been gone through. -/
theorem not_withheld_listed_iff : (∀ o ∈ l.listed.operations, l.listed.withholds o = false) ↔
    ∀ o ∈ l.operations, l.withholds o = false := by
  constructor
  · intro hopen o ho
    by_cases hname : o.name = SpecialName.types
    · have hother : (o.name == Operation.openName) = false := by
        rw [hname]
        decide
      rw [withholds, hother, Bool.false_and]
    · rw [← withholds_listed]
      exact hopen o (mem_operations_listed ho hname)
  · intro hopen o ho
    rw [withholds_listed]
    exact hopen o (operations_listed_subset ho)

/-- A class that has something of its own under the name, or no routine, keeps no new record. -/
theorem listed_eq_self
    (h : SpecialName.types ∈ l.routineNames → (l.own? SpecialName.types).isSome = true) :
    l.listed = l := by
  apply afterPassing_of_not_typesAt
  intro o ho
  by_cases hname : o.name = SpecialName.types
  · have hown := h (mem_routineNames_iff.2 ⟨o, ho, hname⟩)
    rw [typesAt, hname, Option.isNone_eq_false_iff.2 hown, Bool.and_false]
  · simp [typesAt, hname]

/-- A declared class that inherits a routine under the name begins to keep a record. -/
theorem listed_eq_withTypes {d : DeclaredClass} {rest : Lineage}
    (hopen : ∀ o ∈ operations (.declared d :: rest), withholds (.declared d :: rest) o = false)
    (hmem : SpecialName.types ∈ routineNames (.declared d :: rest))
    (hown : own? (.declared d :: rest) SpecialName.types = none) :
    listed (.declared d :: rest) = Ancestor.withTypes d :: rest := by
  obtain ⟨o, ho, hname⟩ := mem_routineNames_iff.1 hmem
  have htypes : typesAt (.declared d :: rest) o = true := by
    rw [typesAt, hname, hown]
    rfl
  have hkeeps :
      keepsTypesAfter (.declared d :: rest) (operations (.declared d :: rest)) = true := by
    rw [keepsTypesAfter_of_not_withheld hopen]
    exact List.any_eq_true.2 ⟨o, ho, htypes⟩
  rw [listed, afterPassing, if_pos hkeeps]
  rfl

/-- The record hides a verb exactly where the whitelist has the verb of its name. -/
theorem verbs_withTypes_iff {d : DeclaredClass} {rest : Lineage}
    (hmem : SpecialName.types ∈ routineNames (.declared d :: rest))
    (hown : own? (.declared d :: rest) SpecialName.types = none) :
    verbs (Ancestor.withTypes d :: rest) whitelist = verbs (.declared d :: rest) whitelist ↔
      Text.upper SpecialName.types ∉ whitelist := by
  rw [verbs, verbs, operations_withTypes hown, List.filter_map, List.filter_map]
  obtain ⟨o, ho, hname⟩ := mem_routineNames_iff.1 hmem
  constructor
  · intro hsame hlisted
    have hsub := (List.filter_sublist (p := fun o => o.name != SpecialName.types)
      (l := operations (.declared d :: rest))).filter (whitelist.contains ∘ Operation.verb)
    have hlength := congrArg List.length hsame
    rw [List.length_map, List.length_map] at hlength
    have hkept : o ∈ (operations (.declared d :: rest)).filter
        (whitelist.contains ∘ Operation.verb) := by
      refine List.mem_filter.2 ⟨ho, ?_⟩
      rw [Function.comp_apply, Operation.verb, hname]
      simpa using hlisted
    rw [← hsub.eq_of_length hlength] at hkept
    have hother := (List.mem_filter.1 (List.mem_filter.1 hkept).1).2
    rw [hname] at hother
    simp at hother
  · intro hunlisted
    rw [List.filter_filter]
    congr 1
    apply List.filter_congr
    intro other _
    by_cases hother : other.name = SpecialName.types
    · simp [Operation.verb, hother, hunlisted]
    · simp [hother]

/-- A declared class lists the same verbs again exactly where it inherits no routine under either
name. -/
theorem listsSteadily_iff {d : DeclaredClass} {rest : Lineage} :
    ListsSteadily (.declared d :: rest) whitelist ↔
      OwnsSpecialRoutines (.declared d :: rest) whitelist := by
  constructor
  · rintro ⟨hopen, hverbs⟩
    refine ⟨not_withheld_iff.1 hopen, ?_⟩
    intro hmem hlisted
    cases hown : own? (.declared d :: rest) SpecialName.types with
    | some a => rfl
    | none =>
      rw [listed_eq_withTypes hopen hmem hown] at hverbs
      exact absurd hlisted ((verbs_withTypes_iff hmem hown).1 hverbs)
  · rintro ⟨hdefined, htypes⟩
    have hopen := not_withheld_iff.2 hdefined
    refine ⟨hopen, ?_⟩
    by_cases hkeeps : SpecialName.types ∈ routineNames (.declared d :: rest) ∧
        own? (.declared d :: rest) SpecialName.types = none
    · obtain ⟨hmem, hown⟩ := hkeeps
      rw [listed_eq_withTypes hopen hmem hown, verbs_withTypes_iff hmem hown]
      intro hlisted
      have hsome := htypes hmem hlisted
      rw [hown] at hsome
      cases hsome
    · rw [listed_eq_self]
      intro hmem
      cases hown : own? (.declared d :: rest) SpecialName.types with
      | some a => rfl
      | none => exact absurd ⟨hmem, hown⟩ hkeeps

end VerbDoc.Lineage
