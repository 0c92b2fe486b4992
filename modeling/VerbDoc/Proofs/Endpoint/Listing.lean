import Mathlib.Data.List.Nodup
import VerbDoc.Handler.Hierarchy
import VerbDoc.Proofs.Endpoint.ReadingBack

/-!
# How often a verb is listed

A class has each name once, but a verb is listed for every name that stands for it, and names with
one upper case stand for one verb. Main statement: a class lists its verbs once each exactly where
it tells them apart by name, and what OPTIONS adds to the Allow header are the verbs as they are
listed.
-/
namespace VerbDoc

namespace Lineage

variable {l : Lineage} {whitelist : List Text}

/-- No verb of the whitelist has two routines under different names. -/
def TellsVerbsApart (l : Lineage) (whitelist : List Text) : Prop :=
  ∀ name ∈ l.routineNames, ∀ other ∈ l.routineNames,
    Text.upper name ∈ whitelist → Text.upper name = Text.upper other → name = other

instance (l : Lineage) (whitelist : List Text) : Decidable (l.TellsVerbsApart whitelist) :=
  decidable_of_iff
    (∀ name ∈ l.routineNames, ∀ other ∈ l.routineNames,
      whitelist.contains (Text.upper name) = true → Text.upper name = Text.upper other →
        name = other) <| by
    simp only [TellsVerbsApart, List.contains_iff_mem]

/-- A verb is listed for each name of a routine that stands for it. -/
theorem count_verbs (l : Lineage) (whitelist : List Text) (verb : Text) :
    (l.verbs whitelist).count verb =
      if verb ∈ whitelist then l.routineNames.countP fun name => Text.upper name == verb
      else 0 := by
  rw [← implementedVerbs_eq, implementedVerbs]
  by_cases hlisted : verb ∈ whitelist
  · rw [if_pos hlisted, List.count_filter (by simpa using hlisted), List.count, List.countP_map]
    rfl
  · rw [if_neg hlisted, List.count_eq_zero]
    intro hmem
    exact hlisted (by simpa using (List.mem_filter.1 hmem).2)

theorem nodup_verbs_iff : (l.verbs whitelist).Nodup ↔ l.TellsVerbsApart whitelist := by
  rw [← implementedVerbs_eq, implementedVerbs, List.filter_map,
    List.nodup_map_iff_inj_on (l.nodup_routineNames.filter _)]
  constructor
  · intro hinj name hname other hother hlisted hsame
    refine hinj name (List.mem_filter.2 ⟨hname, ?_⟩) other (List.mem_filter.2 ⟨hother, ?_⟩) hsame
    · simpa using hlisted
    · simpa [← hsame] using hlisted
  · intro hapart name hname other hother hsame
    obtain ⟨hname, hlisted⟩ := List.mem_filter.1 hname
    exact hapart name hname other (List.mem_filter.1 hother).1 (by simpa using hlisted) hsame

/-- Verbs are told apart where their routines have names in lower case. -/
theorem tellsVerbsApart_of_lower
    (hlower : ∀ name ∈ l.routineNames, Text.upper name ∈ whitelist →
      Text.lower (Text.upper name) = name) : l.TellsVerbsApart whitelist := by
  intro name hname other hother hlisted hsame
  calc name = Text.lower (Text.upper name) := (hlower name hname hlisted).symm
    _ = Text.lower (Text.upper other) := by rw [hsame]
    _ = other := hlower other hother (hsame ▸ hlisted)

end Lineage

namespace Endpoint

/-- The verbs are what OPTIONS adds to the Allow header of the attached response, in a text that
lists them, and they are read back from it unless the whitelist has something that is no item. -/
structure AddsToAllow (e : Endpoint) (whitelist verbs : List Text) : Prop where
  added : ∀ r, e.response = .response r → e.afterOptions.response =
    .response (r.addHeader "Allow".toList (.text (Text.listed verbs)))
  read_back : ∀ r, e.response = .response r → (∀ verb ∈ whitelist, Text.IsItem verb) →
    e.AllowsBesides verbs

theorem ServesOptions.addsToAllow {e : Endpoint} {config : Configuration}
    (h : e.ServesOptions config)
    (hopen : ∀ o ∈ e.lineage.operations, e.lineage.withholds o = false) :
    e.AddsToAllow config.verbs (e.lineage.verbs config.verbs) where
  added r hresponse := by
    rw [h.afterOptions_eq]
    exact h.response_options hresponse hopen
  read_back _ hresponse hitems := h.allowsBesides_verbs hresponse hitems hopen

/-- Whatever the names of its members, a class lists a verb of the whitelist as often as its
routines have names for it. So it lists its verbs once each exactly where it tells them apart, and
the Allow header lists them as the class does. -/
theorem listsOnce_iff (l : Lineage) (whitelist : List Text) :
    ((∃ verbs, (l.listVerbs whitelist).1 = .ok verbs) ↔
      ∀ o ∈ l.operations, l.withholds o = false) ∧
    ∀ verbs, (l.listVerbs whitelist).1 = .ok verbs →
      (∀ verb, verbs.count verb = if verb ∈ whitelist then
        l.routineNames.countP fun name => Text.upper name == verb else 0) ∧
      (verbs.Nodup ↔ l.TellsVerbsApart whitelist) ∧
      ∀ (e : Endpoint) (config : Configuration), e.lineage = l → config.verbs = whitelist →
        e.ServesOptions config → e.AddsToAllow whitelist verbs := by
  constructor
  · constructor
    · rintro ⟨verbs, hverbs⟩
      exact (Lineage.listVerbs_eq_ok_iff.1 hverbs).1
    · intro hopen
      exact ⟨_, Lineage.listVerbs_eq_ok_iff.2 ⟨hopen, rfl⟩⟩
  · intro verbs hverbs
    obtain ⟨hopen, rfl⟩ := Lineage.listVerbs_eq_ok_iff.1 hverbs
    refine ⟨l.count_verbs whitelist, Lineage.nodup_verbs_iff, ?_⟩
    rintro e config rfl rfl hserves
    exact hserves.addsToAllow hopen

theorem listsOnce_blog :
    (fresh .blog .standard).ServesOptions .standard ∧
      (Lineage.blog.listVerbs Configuration.standard.verbs).1 =
        .ok (Lineage.blog.verbs Configuration.standard.verbs) ∧
      (Lineage.blog.verbs Configuration.standard.verbs).Nodup ∧
      (fresh .blog .standard).AllowsBesides (Lineage.blog.verbs Configuration.standard.verbs) := by
  have hserves : (fresh .blog .standard).ServesOptions .standard :=
    .fresh .standard rfl rfl rfl (by decide) rfl rfl rfl
  have hs : Configuration.ofSettings .standard = .ok .standard := rfl
  have hapart : Lineage.blog.TellsVerbsApart Configuration.standard.verbs :=
    Lineage.tellsVerbsApart_of_lower (by decide +kernel)
  obtain ⟨⟨-, hlists⟩, honce⟩ := listsOnce_iff .blog Configuration.standard.verbs
  obtain ⟨verbs, hverbs⟩ := hlists (by decide +kernel)
  obtain ⟨-, rfl⟩ := Lineage.listVerbs_eq_ok_iff.1 hverbs
  obtain ⟨-, hnodup, hallows⟩ := honce _ hverbs
  have hadds := hallows _ .standard rfl rfl hserves
  exact ⟨hserves, hverbs, hnodup.2 hapart,
    hadds.read_back _ rfl (Configuration.isWellMade_of_ofSettings hs).verbs⟩

/-- A class with two methods whose names differ in case alone. -/
def twoCasesClass : ClassDeclaration where
  name := "H".toList
  bases := ["Endpoint".toList]
  members :=
    [⟨"get".toList, none, .routine ⟨.object, none, none, []⟩⟩,
      ⟨"GET".toList, none, .routine ⟨.object, none, none, []⟩⟩]

theorem listsTwice_twoCases :
    ∃ h l, Hierarchy.initial.declareAll [twoCasesClass] = .ok h ∧ h.find "H".toList = .ok l ∧
      (l.listVerbs ["GET".toList]).1 = .ok ["GET".toList, "GET".toList] ∧
      (fresh l .standard).afterOptions.headerItems "Allow".toList =
        .ok ["GET".toList, "GET".toList, "HEAD".toList, "OPTIONS".toList] ∧
      ¬["GET".toList, "GET".toList].Nodup ∧ ¬l.TellsVerbsApart ["GET".toList] := by
  refine ⟨_, _, rfl, rfl, ?_, ?_, by decide, ?_⟩
  · rfl
  · rfl
  · decide +kernel

end Endpoint
end VerbDoc
