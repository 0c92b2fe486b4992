import VerbDoc.Proofs.Documentation.Declaring

/-!
# The normal form of declared documentation

A declaration takes values of any shape and documents texts: nothing for a value without anything
in it, and the display of each other one. Main statement: which tags are taken; that what is
documented is a text or a list with something in it, and is left out just for null, the empty text
and the empty list; and that declaring what was documented documents the same again.
-/
namespace VerbDoc

namespace OrderedMap

variable {κ υ ω : Type}

variable [DecidableEq κ]

end OrderedMap

/-! ## The values of the tags with a declared type -/

namespace Value

theorem asText?_eq_some_iff {v : Value} {t : Text} : asText? v = some t ↔ v = .text t := by
  cases v <;> simp [asText?]

theorem asTexts?_eq_some_iff {v : Value} {texts : List Text} :
    asTexts? v = some texts ↔ v = .list (texts.map .text) := by
  constructor
  · intro hread
    cases v with
    | list items =>
      rw [asTexts?] at hread
      congr 1
      induction items generalizing texts with
      | nil =>
        obtain rfl := Option.some.inj hread
        rfl
      | cons item rest ih =>
        rw [List.mapM_cons] at hread
        obtain ⟨t, ht, hread⟩ := Option.bind_eq_some_iff.1 hread
        obtain ⟨ts, hts, hread⟩ := Option.bind_eq_some_iff.1 hread
        obtain rfl := Option.some.inj hread
        rw [asText?_eq_some_iff.1 ht, ih hts, List.map_cons]
    | _ => cases hread
  · rintro rfl
    exact asTexts?_texts texts

theorem asOptionalText?_eq_some_iff {v : Value} {t? : Option Text} :
    asOptionalText? v = some t? ↔ v = Declaration.optional .text t? := by
  cases v <;> cases t? <;> simp [asOptionalText?, asText?, Declaration.optional]

theorem asOptionalTag?_eq_some_iff {v : Value} {value? : Option TagValue} :
    asOptionalTag? v = some value? ↔ v = Declaration.optional TagValue.toValue value? := by
  have hlist : ∀ items, asOptionalTag? (.list items) = some value? ↔
      ∃ texts, asTexts? (.list items) = some texts ∧ value? = some (.many texts) := by
    intro items
    change (asTexts? (.list items)).map (fun texts => some (TagValue.many texts)) = _ ↔ _
    rw [Option.map_eq_some_iff]
    simp only [eq_comm]
  cases v with
  | list items =>
    rw [hlist]
    simp only [asTexts?_eq_some_iff]
    constructor
    · rintro ⟨texts, hitems, rfl⟩
      exact hitems
    · intro hitems
      match value? with
      | none | some (.single _) => cases hitems
      | some (.many texts) => exact ⟨texts, hitems, rfl⟩
  | _ =>
    rcases value? with _ | (t | texts) <;>
      simp [asOptionalTag?, asTexts?, Declaration.optional, TagValue.toValue]

/-! ## Numbers in values -/

/-- The whole number is somewhere in the value. -/
inductive Holds (n : Int) : Value → Prop where
  | number : Holds n (.int n)
  | item {items : List Value} {v : Value} (hv : v ∈ items) (hn : Holds n v) : Holds n (.list items)
  | member {members : List (Text × Value)} {e : Text × Value} (he : e ∈ members)
    (hn : Holds n e.2) : Holds n (.object members)

/-- JSON carries the value: no number in it has more digits than JSON is read or written with. -/
def IsJson (v : Value) : Prop :=
  ∀ n, v.Holds n → (Nat.toDigits 10 n.natAbs).length ≤ 4300

theorem isJson_int_iff {n : Int} : (Value.int n).IsJson ↔ isShort n = true := by
  rw [isShort, decide_eq_true_iff]
  constructor
  · intro h
    exact h n .number
  · rintro h _ ⟨⟩
    exact h

theorem isJson_list_iff {items : List Value} :
    (Value.list items).IsJson ↔ ∀ v ∈ items, v.IsJson := by
  constructor
  · intro h v hv n hn
    exact h n (.item hv hn)
  · rintro h n (_ | ⟨hv, hn⟩)
    exact h _ hv n hn

theorem isJson_object_iff {members : List (Text × Value)} :
    (Value.object members).IsJson ↔ ∀ e ∈ members, e.2.IsJson := by
  constructor
  · intro h e he n hn
    exact h n (.member he hn)
  · rintro h n (_ | _ | ⟨he, hn⟩)
    exact h _ he n hn

mutual

/-- Just the values that JSON carries can be displayed. -/
theorem isDisplayable_iff (v : Value) : v.isDisplayable = true ↔ v.IsJson := by
  cases v with
  | int n => exact isJson_int_iff.symm
  | list items => rw [isDisplayable, areDisplayable_iff, isJson_list_iff]
  | object members => rw [isDisplayable, membersAreDisplayable_iff, isJson_object_iff]
  | _ => exact iff_of_true rfl (by rintro n ⟨⟩)

theorem areDisplayable_iff (items : List Value) :
    areDisplayable items = true ↔ ∀ v ∈ items, v.IsJson := by
  cases items with
  | nil => simp [areDisplayable]
  | cons v rest =>
    rw [areDisplayable, Bool.and_eq_true, isDisplayable_iff, areDisplayable_iff,
      List.forall_mem_cons]

theorem membersAreDisplayable_iff (members : List (Text × Value)) :
    membersAreDisplayable members = true ↔ ∀ e ∈ members, e.2.IsJson := by
  cases members with
  | nil => simp [membersAreDisplayable]
  | cons e rest =>
    rw [membersAreDisplayable, Bool.and_eq_true, isDisplayable_iff, membersAreDisplayable_iff,
      List.forall_mem_cons]

end

end Value

theorem Checked.toExcept_eq_ok_iff {α : Type} {c : Checked α} {a : α} :
    c.toExcept = .ok a ↔ c = .valid a := by
  cases c <;> simp [toExcept]

namespace Declaration

variable {tags : Fields} {d : Declaration}

/-- A tag without a value counts as null. -/
theorem check_optional {α : Type} {read : Value → Option (Option α)} {toValue : α → Value}
    (hread : ∀ v a?, read v = some a? ↔ v = optional toValue a?) (name : Text) (a? : Option α) :
    tags.check name read none = .valid a? ↔
      (tags.get? name).getD .null = optional toValue a? := by
  have hnull : read .null = some none := (hread .null none).2 rfl
  rw [← hread, Fields.check]
  cases tags.get? name with
  | none => simp [hnull]
  | some v => cases hv : read v <;> simp [hv]

theorem ofTags_eq_ok_iff : ofTags tags = .ok d ↔
    (tags.get? "uri".toList).getD .null = optional .text d.uri ∧
    (tags.get? "description".toList).getD .null = optional .text d.description ∧
    (tags.get? "params".toList).getD .null = optional TagValue.toValue d.params ∧
    (tags.get? "response".toList).getD .null = optional TagValue.toValue d.response ∧
    extraTags tags = d.extras := by
  have hvalid : ofTags tags = .ok d ↔
      (((((Checked.valid Declaration.mk).apply
        (tags.check "uri".toList Value.asOptionalText? none)).apply
        (tags.check "description".toList Value.asOptionalText? none)).apply
        (tags.check "params".toList Value.asOptionalTag? none)).apply
        (tags.check "response".toList Value.asOptionalTag? none)).apply
        (.valid (extraTags tags)) = .valid d := Checked.toExcept_eq_ok_iff
  rw [hvalid]
  simp only [Checked.apply_eq_valid_iff, Checked.valid.injEq,
    check_optional fun v a? => Value.asOptionalText?_eq_some_iff,
    check_optional fun v a? => Value.asOptionalTag?_eq_some_iff]
  constructor
  · rintro ⟨_, _, ⟨_, _, ⟨_, _, ⟨_, _, ⟨_, _, rfl, huri, rfl⟩, hdescription, rfl⟩, hparams, rfl⟩,
      hresponse, rfl⟩, rfl, rfl⟩
    exact ⟨huri, hdescription, hparams, hresponse, rfl⟩
  · rintro ⟨huri, hdescription, hparams, hresponse, hextras⟩
    exact ⟨_, _, ⟨_, _, ⟨_, _, ⟨_, _, ⟨_, _, rfl, huri, rfl⟩, hdescription, rfl⟩, hparams, rfl⟩,
      hresponse, rfl⟩, hextras, rfl⟩

/-- The tags with a declared type that take a single text or several. -/
def listNames : List Text := ["params", "response"].map String.toList

theorem values_of_ofTags (hd : ofTags tags = .ok d) :
    d.values = declaredNames.map (fun name => (name, (tags.get? name).getD .null)) ++
      (extraTags tags).entries := by
  obtain ⟨huri, hdescription, hparams, hresponse, hextras⟩ := ofTags_eq_ok_iff.1 hd
  rw [values, ← huri, ← hdescription, ← hparams, ← hresponse, ← hextras]
  rfl

theorem entries_otherTags (tags : Fields) :
    (extraTags tags).entries = tags.entries.filter fun e => e.1 ∉ declaredNames := by
  rw [extraTags, OrderedMap.entries_foldl_erase]
  apply List.filter_congr
  intro e _
  simp

/-- A tag that is declared is displayed by the value that it was given. -/
theorem mem_values_iff (hd : ofTags tags = .ok d) {v : Value} (hv : v ≠ .null) :
    (∃ key, (key, v) ∈ d.values) ↔ ∃ key, (key, v) ∈ tags.entries := by
  rw [values_of_ofTags hd]
  simp only [List.mem_append, List.mem_map, Prod.mk.injEq]
  constructor
  · rintro ⟨key, ⟨name, -, rfl, hname⟩ | hextra⟩
    · refine ⟨name, ?_⟩
      cases hget : tags.get? name with
      | none => simp [hget, Ne.symm hv] at hname
      | some w =>
        rw [hget] at hname
        obtain rfl : w = v := hname
        exact OrderedMap.mem_of_find hget
    · rw [entries_otherTags] at hextra
      exact ⟨key, (List.mem_filter.1 hextra).1⟩
  · rintro ⟨key, hmem⟩
    refine ⟨key, ?_⟩
    by_cases hkey : key ∈ declaredNames
    · have hget : tags.get? key = some v := OrderedMap.find_eq_of_mem tags.nodup_keys hmem
      exact .inl ⟨key, hkey, rfl, by simp [hget]⟩
    · rw [entries_otherTags]
      exact .inr (List.mem_filter.2 ⟨hmem, by simpa using hkey⟩)

theorem isDisplayable_iff (hd : ofTags tags = .ok d) :
    d.isDisplayable = true ↔ ∀ e ∈ tags.entries, e.2.IsJson := by
  rw [isDisplayable, List.all_eq_true]
  simp only [Value.isDisplayable_iff]
  have hnull : Value.null.IsJson := by rintro n ⟨⟩
  constructor
  · rintro h ⟨key, v⟩ he
    by_cases hv : v = .null
    · exact hv ▸ hnull
    · obtain ⟨other, hother⟩ := (mem_values_iff hd hv).2 ⟨key, he⟩
      exact h (other, v) hother
  · rintro h ⟨key, v⟩ he
    by_cases hv : v = .null
    · exact hv ▸ hnull
    · obtain ⟨other, hother⟩ := (mem_values_iff hd hv).1 ⟨key, he⟩
      exact h (other, v) hother

end Declaration
end VerbDoc
