import VerbDoc.Documentation.Declared
import VerbDoc.Proofs.Documentation.WellFormed

/-!
# Documentation that is read and then declared

What is read from a text can be declared instead, tag by tag. Declaring drops a null, an empty text
and an empty list, shows what is no text, and takes no list for two of the tags. Main statements:
none of this befalls what was read, but for the two tags with a single text, which are refused where
they were repeated; otherwise the declaration documents the same, with the declared tags in front.
-/
namespace VerbDoc

namespace OrderedMap

variable {κ υ : Type}

/-- Some keys with their values, as far as they have any. -/
def pick (f : κ → Option υ) (ks : List κ) : List (κ × υ) :=
  ks.filterMap fun k => (f k).map fun v => (k, v)

theorem map_fst_pick (f : κ → Option υ) (ks : List κ) :
    (pick f ks).map Prod.fst = ks.filter fun k => (f k).isSome := by
  induction ks with
  | nil => rfl
  | cons k rest ih =>
    rw [pick] at ih ⊢
    cases hf : f k <;> simp [hf, ih]

variable [DecidableEq κ]

theorem entries_foldl_erase (ks : List κ) (m : OrderedMap κ υ) :
    (ks.foldl erase m).entries = m.entries.filter fun e => !ks.contains e.1 := by
  induction ks generalizing m with
  | nil => simp
  | cons k rest ih =>
    rw [List.foldl_cons, ih, erase, List.filter_filter]
    apply List.filter_congr
    intro e _
    by_cases he : e.1 = k <;> simp [he]

theorem find_pick (f : κ → Option υ) (ks : List κ) (k : κ) :
    find k (pick f ks) = if k ∈ ks then f k else none := by
  induction ks with
  | nil => rfl
  | cons first rest ih =>
    rw [pick, List.filterMap_cons]
    rw [pick] at ih
    by_cases hk : k = first
    · subst hk
      cases hf : f k <;> simp [hf, find, ih]
    · have hne : first ≠ k := fun heq => hk heq.symm
      cases hf : f first <;> simp [find, ih, hk, hne]

end OrderedMap

namespace Documentation

/-- Both have the same values, in whatever order. -/
def SaysSame (a b : Documentation) : Prop := ∀ key, a.get? key = b.get? key

def tags (doc : Documentation) : Fields := doc.mapValues TagValue.toValue

def repeats (doc : Documentation) (key : Text) : Bool :=
  match doc.get? key with
  | some (.many _) => true
  | some (.single _) | none => false

def arranged (doc : Documentation) : List (Text × TagValue) :=
  OrderedMap.pick doc.get? Declaration.declaredNames ++
    doc.entries.filter fun e => !Declaration.declaredNames.contains e.1

variable {doc : Documentation}

theorem map_fst_arranged (doc : Documentation) :
    doc.arranged.map Prod.fst = Declaration.declaredNames.filter doc.contains ++
      doc.keys.filter fun key => !Declaration.declaredNames.contains key := by
  rw [arranged, List.map_append, OrderedMap.map_fst_pick, OrderedMap.keys, List.filter_map]
  rfl

theorem nodup_arranged (doc : Documentation) : (doc.arranged.map Prod.fst).Nodup := by
  rw [map_fst_arranged, List.nodup_append]
  refine ⟨(by decide : Declaration.declaredNames.Nodup).filter _, doc.nodup_keys.filter _, ?_⟩
  intro a ha b hb heq
  have hdeclared := (List.mem_filter.1 ha).1
  have hother := (List.mem_filter.1 hb).2
  rw [← heq] at hother
  simp [hdeclared] at hother

theorem find_arranged (doc : Documentation) (key : Text) :
    OrderedMap.find key doc.arranged = doc.get? key := by
  rw [arranged, OrderedMap.find_append, OrderedMap.find_pick]
  by_cases hkey : key ∈ Declaration.declaredNames
  · rw [if_pos hkey]
    have hnone : OrderedMap.find key
        (doc.entries.filter fun e => !Declaration.declaredNames.contains e.1) = none := by
      rw [OrderedMap.find_eq_none_iff]
      intro hmem
      obtain ⟨e, he, rfl⟩ := List.mem_map.1 hmem
      have hother := (List.mem_filter.1 he).2
      simp [hkey] at hother
    rw [hnone, Option.or_none]
  · rw [if_neg hkey, Option.none_or]
    exact OrderedMap.find_filter_of_pos
      (p := fun key => !Declaration.declaredNames.contains key) (by simpa using hkey) doc.entries

end Documentation

/-! ## The declaration of what was read -/

def TagValue.single? : TagValue → Option Text
  | .single text => some text
  | .many _ => none

/-- A text with something in it, or texts of which there is one at least. -/
def TagValue.IsFilled : TagValue → Prop
  | .single text => text ≠ []
  | .many texts => texts ≠ []

/-- All values have something in them. -/
def Documentation.IsFilled (doc : Documentation) : Prop := ∀ e ∈ doc.entries, e.2.IsFilled

theorem TagValue.IsWellFormed.isFilled {value : TagValue} (h : value.IsWellFormed) :
    value.IsFilled := by
  cases value with
  | single text => exact IsTagText.ne_nil h
  | many texts =>
    have htwo : 2 ≤ texts.length := h.1
    rintro rfl
    exact absurd htwo (by decide)

theorem Documentation.IsWellFormed.isFilled {doc : Documentation} (h : doc.IsWellFormed) :
    doc.IsFilled :=
  fun e he => (h.values e he).isFilled

theorem Documentation.IsFilled.of_get? {doc : Documentation} (h : doc.IsFilled) {key : Text}
    {value : TagValue} (hget : doc.get? key = some value) : value.IsFilled :=
  h _ (OrderedMap.mem_of_find hget)

theorem Value.asTexts?_texts (texts : List Text) :
    asTexts? (.list (texts.map .text)) = some texts := by
  rw [asTexts?, List.mapM_map]
  induction texts with
  | nil => rfl
  | cons t rest ih =>
    rw [List.mapM_cons, ih]
    rfl

namespace Declaration

/-- The tags with a declared type that take a single text only. -/
def textNames : List Text := ["uri", "description"].map String.toList

/-- The declaration that documentation makes. A tag for a single text is left out where there are
several. -/
def ofDocumentation (doc : Documentation) : Declaration where
  uri := (doc.get? "uri".toList).bind TagValue.single?
  description := (doc.get? "description".toList).bind TagValue.single?
  params := doc.get? "params".toList
  response := doc.get? "response".toList
  extras := extraTags doc.tags

theorem check_text (doc : Documentation) (name : Text) :
    doc.tags.check name Value.asOptionalText? none =
      if doc.repeats name then .invalid [name]
      else .valid ((doc.get? name).bind TagValue.single?) := by
  unfold Fields.check Documentation.repeats Documentation.tags
  rw [OrderedMap.get?_mapValues]
  cases doc.get? name with
  | none => rfl
  | some value => cases value <;> rfl

theorem check_tag (doc : Documentation) (name : Text) :
    doc.tags.check name Value.asOptionalTag? none = .valid (doc.get? name) := by
  unfold Fields.check Documentation.tags
  rw [OrderedMap.get?_mapValues]
  cases doc.get? name with
  | none => rfl
  | some value =>
    cases value with
    | single t => rfl
    | many texts =>
      have hread : Value.asOptionalTag? (.list (texts.map .text)) = some (some (.many texts)) := by
        change (Value.asTexts? (.list (texts.map .text))).map
          (fun ts => some (TagValue.many ts)) = _
        rw [Value.asTexts?_texts]
        rfl
      simp only [Option.map_some, TagValue.toValue, hread]

/-- Documentation can be declared unless a tag for a single text has several, and the refusal names
all such tags. -/
theorem ofTags_tags (doc : Documentation) :
    ofTags doc.tags =
      match textNames.filter doc.repeats with
      | [] => .ok (ofDocumentation doc)
      | name :: more => .error (.invalidFields (Text.sortedSet (name :: more))) := by
  have hfilter : textNames.filter doc.repeats =
      (if doc.repeats "uri".toList then ["uri".toList] else []) ++
        if doc.repeats "description".toList then ["description".toList] else [] := by
    rw [textNames, List.map_cons, List.map_cons, List.map_nil, List.filter_cons, List.filter_cons,
      List.filter_nil]
    cases doc.repeats "uri".toList <;> cases doc.repeats "description".toList <;> rfl
  rw [ofTags, check_text, check_text, check_tag, check_tag, hfilter]
  cases doc.repeats "uri".toList <;> cases doc.repeats "description".toList <;> rfl

/-- Texts with something in them are documented as they are. -/
theorem documented?_toValue {value : TagValue} (hvalue : value.IsFilled) :
    documented? value.toValue = some value := by
  cases value with
  | single text =>
    cases text with
    | nil => exact absurd rfl hvalue
    | cons c rest => rfl
  | many texts =>
    cases texts with
    | nil => exact absurd rfl hvalue
    | cons t rest =>
      have hdisplay : ((t :: rest).map Value.text).map Value.display = t :: rest := by
        rw [List.map_map]
        exact List.map_id _
      change some (TagValue.many (((t :: rest).map Value.text).map Value.display)) = _
      rw [hdisplay]

theorem documented?_optional {value? : Option TagValue}
    (hvalue : ∀ value ∈ value?, value.IsFilled) :
    documented? (optional TagValue.toValue value?) = value? := by
  cases value? with
  | none => rfl
  | some value => exact documented?_toValue (hvalue value rfl)

/-- Where no tag for a single text has several, each declared tag has its value. -/
theorem values_ofDocumentation {doc : Documentation}
    (hsingle : textNames.filter doc.repeats = []) :
    (ofDocumentation doc).values =
      declaredNames.map (fun name => (name, optional TagValue.toValue (doc.get? name))) ++
        (extraTags doc.tags).entries := by
  have htext : ∀ name ∈ textNames, optional Value.text ((doc.get? name).bind TagValue.single?) =
      optional TagValue.toValue (doc.get? name) := by
    intro name hname
    have hrepeats := List.filter_eq_nil_iff.1 hsingle name hname
    unfold Documentation.repeats at hrepeats
    cases hget : doc.get? name with
    | none => rfl
    | some value =>
      rw [hget] at hrepeats
      cases value with
      | single t => rfl
      | many texts => exact absurd rfl hrepeats
  simp only [values, ofDocumentation, htext _ (show "uri".toList ∈ textNames by decide),
    htext _ (show "description".toList ∈ textNames by decide)]
  rfl

theorem entries_extraTags (doc : Documentation) :
    (extraTags doc.tags).entries =
      (doc.entries.filter fun e => !declaredNames.contains e.1).map
        fun e => (e.1, e.2.toValue) := by
  rw [extraTags, OrderedMap.entries_foldl_erase, Documentation.tags, OrderedMap.mapValues,
    List.filter_map]
  congr 1
  apply List.filter_congr
  intro e _
  simp

/-- The declaration of documentation has its entries, the declared tags in front. -/
theorem entries_displayed {doc : Documentation} (hdoc : doc.IsFilled)
    (hsingle : textNames.filter doc.repeats = []) :
    (ofDocumentation doc).displayed.entries = doc.arranged := by
  have hdeclared : (declaredNames.map fun name =>
      (name, optional TagValue.toValue (doc.get? name))).filterMap
        (fun e => (documented? e.2).map fun tag => (e.1, tag)) =
      OrderedMap.pick doc.get? declaredNames := by
    rw [List.filterMap_map, OrderedMap.pick]
    apply List.filterMap_congr
    intro name _
    have hfound : documented? (optional TagValue.toValue (doc.get? name)) = doc.get? name :=
      documented?_optional fun value hvalue => hdoc.of_get? hvalue
    simp only [Function.comp_apply, hfound]
  have hextras : (extraTags doc.tags).entries.filterMap
      (fun e => (documented? e.2).map fun tag => (e.1, tag)) =
      doc.entries.filter fun e => !declaredNames.contains e.1 := by
    rw [entries_extraTags, List.filterMap_map]
    refine (List.filterMap_congr ?_).trans List.filterMap_some
    intro e he
    have hvalue := hdoc e (List.mem_filter.1 he).1
    simp only [Function.comp_apply, documented?_toValue hvalue, Option.map_some]
  have hentries : (ofDocumentation doc).values.filterMap
      (fun e => (documented? e.2).map fun tag => (e.1, tag)) = doc.arranged := by
    rw [values_ofDocumentation hsingle, List.filterMap_append, hdeclared, hextras,
      Documentation.arranged]
  rw [displayed, hentries, OrderedMap.entries_ofList doc.nodup_arranged]

/-- Texts can always be displayed. -/
theorem isDisplayable_toValue (value : TagValue) : value.toValue.isDisplayable = true := by
  cases value with
  | single t => rfl
  | many texts => exact Value.areDisplayable_texts texts

theorem isDisplayable_optional (value? : Option TagValue) :
    (optional TagValue.toValue value?).isDisplayable = true := by
  cases value? with
  | none => rfl
  | some value => exact isDisplayable_toValue value

theorem documentation_ofDocumentation {doc : Documentation}
    (hsingle : textNames.filter doc.repeats = []) :
    (ofDocumentation doc).documentation = .ok (ofDocumentation doc).displayed := by
  rw [documentation, if_pos]
  rw [isDisplayable, values_ofDocumentation hsingle, entries_extraTags, List.all_append,
    List.all_map, List.all_map, Bool.and_eq_true, List.all_eq_true, List.all_eq_true]
  exact ⟨fun name _ => isDisplayable_optional _, fun e _ => isDisplayable_toValue e.2⟩

theorem saysSame_displayed {doc : Documentation} (hdoc : doc.IsWellFormed)
    (hsingle : textNames.filter doc.repeats = []) :
    doc.SaysSame (ofDocumentation doc).displayed := by
  intro key
  rw [OrderedMap.get?, OrderedMap.get?, entries_displayed hdoc.isFilled hsingle]
  exact (doc.find_arranged key).symm

theorem keys_displayed {doc : Documentation} (hdoc : doc.IsWellFormed)
    (hsingle : textNames.filter doc.repeats = []) :
    (ofDocumentation doc).displayed.keys = declaredNames.filter doc.contains ++
      doc.keys.filter fun key => !declaredNames.contains key := by
  rw [OrderedMap.keys, entries_displayed hdoc.isFilled hsingle]
  exact doc.map_fst_arranged

end Declaration

namespace Marker

open Documentation

theorem parse_isWellFormed (m : Marker) (raw : Option Text) : (m.parse raw).IsWellFormed :=
  have hlines : ∀ line ∈ undecoratedLines raw, Text.Trimmed line ∧ Text.OneLine line :=
    fun _ hline => ⟨trimmed_of_mem_undecoratedLines hline, oneLine_of_mem_undecoratedLines hline⟩
  ((Progress.isSound_initial m).foldl_step hlines).documentation

/-- What is read from a text can be declared, and then documents the same, unless a tag for a single
text was repeated. -/
theorem ofTags_parse {m : Marker} {raw : Option Text} {d : Declaration}
    (hd : Declaration.ofTags (m.parse raw).tags = .ok d) :
    d.documentation = .ok d.displayed ∧ (m.parse raw).SaysSame d.displayed := by
  rw [Declaration.ofTags_tags] at hd
  split at hd
  · next hsingle =>
    obtain rfl := Except.ok.inj hd
    exact ⟨Declaration.documentation_ofDocumentation hsingle,
      Declaration.saysSame_displayed (m.parse_isWellFormed raw) hsingle⟩
  · cases hd

end Marker
end VerbDoc
