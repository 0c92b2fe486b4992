import Mathlib.Data.List.Forall2
import VerbDoc.Proofs.Documentation.Declaring
import VerbDoc.Proofs.Endpoint.Options

/-!
# Classes whose methods are documented in another way

A method is documented by its text or by a declaration. Two lineages may differ in nothing else than
that some methods have declared in the one what stands in their texts in the other. Main statement:
they have the same verbs, and each verb is documented with the same tags.
-/
namespace VerbDoc

/-- The same method, which may have declared instead what its text says under the marker. -/
inductive Routine.Redeclares (m : Marker) : Routine → Routine → Prop
  | same (r : Routine) : Redeclares m r r
  | declared {r : Routine} {d : Declaration} (text : Option Text) :
      r.declared = none → Declaration.ofTags (m.parse r.text).tags = .ok d →
        Redeclares m r { r with text := text, declared := some d }

/-- The same attribute, or such a method. -/
inductive Attribute.Redeclares (m : Marker) : Attribute → Attribute → Prop
  | same (a : Attribute) : Redeclares m a a
  | routine {r r' : Routine} :
      r.Redeclares m r' → Redeclares m (.member (.routine r)) (.member (.routine r'))

/-- The same attributes in the same order, but for such methods. -/
def Ancestor.Redeclares (m : Marker) (c c' : Ancestor) : Prop :=
  List.Forall₂ (fun e e' => e.1 = e'.1 ∧ e.2.Redeclares m e'.2) c.attributes c'.attributes

/-- Classes with the same attributes in the same order, but for such methods. -/
def Lineage.Redeclares (m : Marker) (l l' : Lineage) : Prop :=
  List.Forall₂ (Ancestor.Redeclares m) l l'

variable {m : Marker}

theorem Routine.Redeclares.saysSame {r r' : Routine} (h : r.Redeclares m r') :
    (r.documentation m).SaysSame (r'.documentation m) := by
  cases h with
  | same => exact fun _ => rfl
  | declared text hnone hd =>
    rw [documentation, hnone]
    exact (Marker.ofTags_parse hd).2

/-- What is declared instead of a text can always be displayed. -/
theorem Routine.Redeclares.displays_iff {r r' : Routine} (h : r.Redeclares m r') :
    (∀ d ∈ r.declared, d.isDisplayable = true) ↔ ∀ d ∈ r'.declared, d.isDisplayable = true := by
  cases h with
  | same => exact Iff.rfl
  | @declared d text hnone hd =>
    refine iff_of_true (by simp [hnone]) ?_
    rintro d' ⟨⟩
    have hdoc := (Marker.ofTags_parse hd).1
    unfold Declaration.documentation at hdoc
    cases hdisplayable : d.isDisplayable with
    | true => rfl
    | false => simp [hdisplayable] at hdoc

namespace Attribute.Redeclares

variable {a a' : Attribute}

theorem routine? (h : a.Redeclares m a') :
    Option.Rel (Routine.Redeclares m) a.routine? a'.routine? := by
  cases h with
  | same =>
    cases a.routine? with
    | none => exact .none
    | some r => exact .some (.same r)
  | routine hr => exact .some hr

end Attribute.Redeclares

/-! ## Look-ups -/

/-- Two look-ups find nothing, or things that are related. -/
theorem find_or_of_rel {α β : Type} {R : α → β → Prop} {x : Option α} {y : Option β}
    (h : Option.Rel R x y) :
    (x = none ∧ y = none) ∨ ∃ a b, x = some a ∧ y = some b ∧ R a b := by
  cases h with
  | none => exact .inl ⟨rfl, rfl⟩
  | some hab => exact .inr ⟨_, _, rfl, rfl, hab⟩

section Entries

variable {R : Attribute → Attribute → Prop} {es es' : List (Text × Attribute)}

theorem map_fst_eq_of_forall₂ (h : List.Forall₂ (fun e e' => e.1 = e'.1 ∧ R e.2 e'.2) es es') :
    es.map Prod.fst = es'.map Prod.fst := by
  induction h with
  | nil => rfl
  | cons he _ ih => rw [List.map_cons, List.map_cons, he.1, ih]

theorem rel_find_of_forall₂ (h : List.Forall₂ (fun e e' => e.1 = e'.1 ∧ R e.2 e'.2) es es')
    (name : Text) : Option.Rel R (OrderedMap.find name es) (OrderedMap.find name es') := by
  induction h with
  | nil => exact .none
  | cons he _ ih =>
    rw [OrderedMap.find, OrderedMap.find, ← he.1]
    split
    · exact .some he.2
    · exact ih

end Entries

namespace Lineage.Redeclares

variable {l l' : Lineage}

theorem attribute? (h : l.Redeclares m l') (name : Text) :
    Option.Rel (Attribute.Redeclares m) (l.attribute? name) (l'.attribute? name) := by
  unfold Redeclares at h
  induction h with
  | nil => exact .none
  | cons hc _ ih =>
    rw [attribute?_cons, attribute?_cons]
    rcases find_or_of_rel (rel_find_of_forall₂ hc name) with ⟨ha, ha'⟩ | ⟨a, a', ha, ha', hrel⟩
    · rw [ha, ha']
      exact ih
    · rw [ha, ha']
      exact .some hrel

/-- What is no method stands under its name in both. -/
theorem attribute?_eq (h : l.Redeclares m l') {name : Text} {a : Attribute}
    (ha : l.attribute? name = some a) (hno : ∀ r, a ≠ .member (.routine r)) :
    l'.attribute? name = some a := by
  rcases find_or_of_rel (h.attribute? name) with ⟨hnone, -⟩ | ⟨b, b', hb, hb', hrel⟩
  · rw [ha] at hnone
    cases hnone
  · obtain rfl := Option.some.inj (ha.symm.trans hb)
    cases hrel with
    | same => exact hb'
    | routine _ => exact absurd rfl (hno _)

theorem attribute?_eq_none (h : l.Redeclares m l') {name : Text}
    (hnone : l.attribute? name = none) : l'.attribute? name = none := by
  rcases find_or_of_rel (h.attribute? name) with ⟨-, hnone'⟩ | ⟨b, b', hb, -, -⟩
  · exact hnone'
  · rw [hnone] at hb
    cases hb

theorem definedNames_eq (h : l.Redeclares m l') : l.definedNames = l'.definedNames := by
  rw [definedNames, definedNames]
  congr 1
  unfold Redeclares at h
  induction h with
  | nil => rfl
  | cons hc _ ih => rw [List.flatMap_cons, List.flatMap_cons, map_fst_eq_of_forall₂ hc, ih]

theorem routine? (h : l.Redeclares m l') (name : Text) :
    Option.Rel (Routine.Redeclares m) (l.routine? name) (l'.routine? name) := by
  rw [Lineage.routine?, Lineage.routine?]
  rcases find_or_of_rel (h.attribute? name) with ⟨ha, ha'⟩ | ⟨a, a', ha, ha', hrel⟩
  · rw [ha, ha']
    exact .none
  · rw [ha, ha']
    exact hrel.routine?

theorem routineNames_eq (h : l.Redeclares m l') : l.routineNames = l'.routineNames := by
  rw [routineNames, routineNames, h.definedNames_eq]
  apply List.filter_congr
  intro name _
  rcases find_or_of_rel (h.routine? name) with ⟨hr, hr'⟩ | ⟨r, r', hr, hr', -⟩
  · rw [hr, hr']
  · rw [hr, hr']
    rfl

theorem implementedVerbs_eq (h : l.Redeclares m l') (whitelist : List Text) :
    l.implementedVerbs whitelist = l'.implementedVerbs whitelist := by
  rw [implementedVerbs, implementedVerbs, h.routineNames_eq]

theorem nameFor?_eq (h : l.Redeclares m l') (verb : Text) : l.nameFor? verb = l'.nameFor? verb := by
  rw [nameFor?, nameFor?, h.routineNames_eq]

theorem isSome_own?_eq (h : l.Redeclares m l') (name : Text) :
    (l.own? name).isSome = (l'.own? name).isSome := by
  unfold Redeclares at h
  cases h with
  | nil => rfl
  | cons hc _ =>
    rw [own?, own?, List.head?_cons, List.head?_cons, Option.bind_some, Option.bind_some,
      Bool.eq_iff_iff, OrderedMap.find_isSome_iff, OrderedMap.find_isSome_iff,
      map_fst_eq_of_forall₂ hc]

/-- The names with a meaning to the class come into play in both or in none. -/
theorem avoidsClassNames (h : l.Redeclares m l') {whitelist : List Text}
    (havoids : l.AvoidsClassNames whitelist) : l'.AvoidsClassNames whitelist where
  open_defined := by
    rw [← h.routineNames_eq, ← h.isSome_own?_eq]
    exact havoids.open_defined
  names := by
    intro verb hverb name hname
    rw [← h.implementedVerbs_eq] at hverb
    rw [← h.nameFor?_eq] at hname
    exact havoids.names verb hverb name hname

theorem routineFor? (h : l.Redeclares m l') (verb : Text) :
    Option.Rel (Routine.Redeclares m) (l.routineFor? verb) (l'.routineFor? verb) := by
  rw [Lineage.routineFor?, Lineage.routineFor?, h.nameFor?_eq]
  cases l'.nameFor? verb with
  | none => exact .none
  | some name => exact h.routine? name

/-- What is declared can be displayed in both or in none. -/
theorem displaysDeclared_iff (h : l.Redeclares m l') {whitelist : List Text}
    (havoids : l.AvoidsClassNames whitelist) :
    l.DisplaysDeclared whitelist ↔ l'.DisplaysDeclared whitelist := by
  rw [havoids.displaysDeclared_iff, (h.avoidsClassNames havoids).displaysDeclared_iff]
  refine forall₂_congr fun verb _ => ?_
  rcases find_or_of_rel (h.routineFor? verb) with ⟨hr, hr'⟩ | ⟨r, r', hr, hr', hrel⟩
  · rw [hr, hr']
  · rw [hr, hr']
    simpa using hrel.displays_iff

/-- Each verb is documented with the same tags. -/
theorem saysSame_documentationFor (h : l.Redeclares m l') (verb : Text) :
    (l.documentationFor m verb).SaysSame (l'.documentationFor m verb) := by
  rw [documentationFor, documentationFor]
  rcases find_or_of_rel (h.routineFor? verb) with ⟨hr, hr'⟩ | ⟨r, r', hr, hr', hsame⟩
  · rw [hr, hr']
    exact fun _ => rfl
  · rw [hr, hr']
    exact hsame.saysSame

end Lineage.Redeclares
end VerbDoc
