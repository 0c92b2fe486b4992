import VerbDoc.Proofs.Settings.Giving
import VerbDoc.Settings.Environment

/-!
# A file that is adopted into the environment

The variables of a file are adopted one after another, those that the environment has under the very
same name and those without a value being left aside. Main statement: adopting a file leaves all
that the environment has and puts the new variables behind it, and it fails exactly where one of
these cannot be bound.
-/
namespace VerbDoc.Settings.Environment

open Text EnvFile

variable {bindings next : OrderedMap Text Text} {es : List Entry}

/-- What entries of a file add to the environment, in the order in which the names first come up:
the last entry for a name counts, if it has a value and the environment does not have that very
name. References in the value stand for what the environment has, and for what stands before it in
the file where the environment has nothing. -/
structure Adopts (bindings : OrderedMap Text Text) (es : List Entry) (added : List (Text × Text)) :
    Prop where
  order : (added.map Prod.fst).Sublist (OrderedMap.distinct (es.map Prod.fst))
  mem_iff : ∀ name t, (name, t) ∈ added ↔ name ∉ bindings.keys ∧
    ∃ before written after, es = before ++ (name, some written) :: after ∧
      name ∉ after.map Prod.fst ∧
      t = substitute (lookupBehind bindings (variablesOf (lookupBehind bindings) before)) written

/-- A variable that an environment can have. -/
structure IsBindable (name t : Text) : Prop where
  ne_nil : name ≠ []
  name_equals : '=' ∉ name
  name_null : '\x00' ∉ name
  text_null : '\x00' ∉ t

instance (name t : Text) : Decidable (IsBindable name t) :=
  decidable_of_iff (_ ∧ _ ∧ _ ∧ _)
    ⟨fun ⟨h₁, h₂, h₃, h₄⟩ => ⟨h₁, h₂, h₃, h₄⟩, fun ⟨h₁, h₂, h₃, h₄⟩ => ⟨h₁, h₂, h₃, h₄⟩⟩

theorem checkBinding_eq_ok_iff {name t : Text} :
    checkBinding name t = .ok () ↔ IsBindable name t := by
  have hsame : IsBindable name t ↔ '\x00' ∉ name ∧ '\x00' ∉ t ∧ '=' ∉ name ∧ name ≠ [] :=
    ⟨fun ⟨h₁, h₂, h₃, h₄⟩ => ⟨h₃, h₄, h₂, h₁⟩, fun ⟨h₁, h₂, h₃, h₄⟩ => ⟨h₄, h₃, h₁, h₂⟩⟩
  rw [hsame, checkBinding, checkText, checkText]
  by_cases hname : '\x00' ∈ name <;> by_cases ht : '\x00' ∈ t <;>
    by_cases hequals : '=' ∈ name <;> by_cases hempty : name = [] <;>
    simp_all [bind, Except.bind, pure, Except.pure, throw, throwThe, MonadExceptOf.throw]

/-! ## Adopting one variable after another -/

/-- Those of some variables that have a value and a new name. -/
def newOnes (bindings : OrderedMap Text Text) (vs : List (Text × Option Text)) :
    List (Text × Text) :=
  vs.filterMap fun v => if bindings.contains v.1 then none else v.2.map fun t => (v.1, t)

theorem entries_insert_of_new {name t : Text} (hnew : bindings.contains name = false) :
    (bindings.insert name t).entries = bindings.entries ++ [(name, t)] := by
  refine OrderedMap.put_of_not_mem ?_ t
  intro hmem
  rw [(bindings.contains_iff_mem_keys name).2 hmem] at hnew
  cases hnew

/-- A variable that has been adopted makes no other name an old one. -/
theorem newOnes_insert {name : Text} {vs : List (Text × Option Text)}
    (hname : name ∉ vs.map Prod.fst) (t : Text) :
    newOnes (bindings.insert name t) vs = newOnes bindings vs := by
  apply List.filterMap_congr
  intro v hv
  have hne : v.1 ≠ name := by
    rintro rfl
    exact hname (List.mem_map_of_mem hv)
  have hcontains : (bindings.insert name t).contains v.1 = bindings.contains v.1 := by
    rw [OrderedMap.contains, OrderedMap.contains, OrderedMap.get?_insert, if_neg hne]
  rw [hcontains]

/-- One variable: it is left aside, or it is put behind what is there, or it cannot be bound. -/
theorem adoptVariable_cases (bindings : OrderedMap Text Text) (v : Text × Option Text)
    (rest : List (Text × Option Text)) :
    (adoptVariable bindings v = .ok bindings ∧
      newOnes bindings (v :: rest) = newOnes bindings rest) ∨
    ∃ t, bindings.contains v.1 = false ∧ v.2 = some t ∧
      newOnes bindings (v :: rest) = (v.1, t) :: newOnes bindings rest ∧
      adoptVariable bindings v = (checkBinding v.1 t).map fun _ => bindings.insert v.1 t := by
  obtain ⟨name, value⟩ := v
  rw [newOnes, List.filterMap_cons]
  cases hold : bindings.contains name with
  | true =>
    refine .inl ⟨?_, by simp [newOnes]⟩
    cases value <;> simp [adoptVariable, hold]
  | false =>
    cases value with
    | none => exact .inl ⟨rfl, by simp [newOnes]⟩
    | some t => exact .inr ⟨t, rfl, rfl, by simp [newOnes], by simp [adoptVariable, hold]⟩

theorem foldlM_adoptVariable {vs : List (Text × Option Text)} (hnodup : (vs.map Prod.fst).Nodup) :
    ((∃ f, vs.foldlM adoptVariable bindings = .error f) ↔
      ∃ b ∈ newOnes bindings vs, ¬IsBindable b.1 b.2) ∧
    ∀ next, vs.foldlM adoptVariable bindings = .ok next →
      next.entries = bindings.entries ++ newOnes bindings vs := by
  induction vs generalizing bindings with
  | nil =>
    refine ⟨iff_of_false ?_ (by simp [newOnes]), ?_⟩
    · rintro ⟨f, hf⟩
      cases hf
    · rintro next ⟨⟩
      simp [newOnes]
  | cons v rest ih =>
    rw [List.map_cons, List.nodup_cons] at hnodup
    rw [List.foldlM_cons]
    rcases adoptVariable_cases bindings v rest with
      ⟨hadopt, hnew⟩ | ⟨t, hfresh, hvalue, hnew, hadopt⟩
    · rw [hadopt, hnew]
      exact ih hnodup.2
    · rw [hadopt, hnew]
      by_cases hbindable : IsBindable v.1 t
      · rw [checkBinding_eq_ok_iff.2 hbindable]
        obtain ⟨hfails, hgives⟩ := @ih (bindings.insert v.1 t) hnodup.2
        rw [newOnes_insert hnodup.1] at hfails hgives
        rw [entries_insert_of_new hfresh] at hgives
        refine ⟨?_, ?_⟩
        · refine hfails.trans ?_
          rw [List.exists_mem_cons_iff]
          exact ⟨.inr, fun h => h.resolve_left fun hnot => hnot hbindable⟩
        · intro next hnext
          rw [hgives next hnext, List.append_assoc]
          rfl
      · obtain ⟨f, hf⟩ : ∃ f, checkBinding v.1 t = .error f := by
          cases hcheck : checkBinding v.1 t with
          | error f => exact ⟨f, rfl⟩
          | ok u => exact absurd (checkBinding_eq_ok_iff.1 hcheck) hbindable
        rw [hf]
        refine ⟨iff_of_true ⟨f, rfl⟩ ⟨_, List.mem_cons_self, hbindable⟩, ?_⟩
        rintro next ⟨⟩

/-! ## Adopting the entries of a file -/

/-- The new variables among those of a file are what it adds. -/
theorem adopts_newOnes (bindings : OrderedMap Text Text) (es : List Entry) :
    Adopts bindings es (newOnes bindings (variablesOf (lookupBehind bindings) es).entries) where
  order := by
    rw [← keys_variablesOf (lookupBehind bindings), OrderedMap.keys, newOnes, List.map_filterMap]
    have hnames : ∀ vs : List (Text × Option Text),
        (vs.filterMap fun v => Option.map Prod.fst
          (if bindings.contains v.1 then none else v.2.map fun t => (v.1, t))).Sublist
            (vs.map Prod.fst) := by
      intro vs
      induction vs with
      | nil => exact .slnil
      | cons v rest ih =>
        rw [List.filterMap_cons, List.map_cons]
        cases bindings.contains v.1 <;> cases v.2 <;> simp [ih, List.Sublist.cons]
    exact hnames _
  mem_iff := by
    intro name t
    have hfound : (name, t) ∈ newOnes bindings (variablesOf (lookupBehind bindings) es).entries ↔
        name ∉ bindings.keys ∧
          (variablesOf (lookupBehind bindings) es).get? name = some (some t) := by
      rw [newOnes, List.mem_filterMap, ← bindings.contains_iff_mem_keys]
      constructor
      · rintro ⟨⟨other, value⟩, hv, hgiven⟩
        cases hold : bindings.contains other with
        | true => simp [hold] at hgiven
        | false =>
          simp only [hold, Bool.false_eq_true, if_false, Option.map_eq_some_iff] at hgiven
          obtain ⟨u, rfl, heq⟩ := hgiven
          cases heq
          exact ⟨by simp [hold], OrderedMap.find_eq_of_mem
            (variablesOf (lookupBehind bindings) es).nodup_keys hv⟩
      · rintro ⟨hnew, hget⟩
        exact ⟨(name, some t), OrderedMap.mem_of_find hget, by simp [hnew]⟩
    rw [hfound, get?_variablesOf_iff]
    refine and_congr_right fun _ => ?_
    constructor
    · rintro ⟨before, _ | written, after, hsplit, hlast, ht⟩
      · cases ht
      · exact ⟨before, written, after, hsplit, hlast, Option.some.inj ht⟩
    · rintro ⟨before, written, after, hsplit, hlast, rfl⟩
      exact ⟨before, some written, after, hsplit, hlast, rfl⟩

end VerbDoc.Settings.Environment
