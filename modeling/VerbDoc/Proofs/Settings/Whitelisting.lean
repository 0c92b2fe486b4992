import VerbDoc.Inspection
import VerbDoc.Proofs.Endpoint.Listing
import VerbDoc.Proofs.Handler.SoleMethod
import VerbDoc.Proofs.Text.Uppercasing

/-!
# Verbs that no class can implement

Settings are looked through for verbs that are not in upper case, and a class lists the verbs that
are the upper case of a name. Putting a text in upper case twice changes nothing more, so that the
two agree. Main statement: the verbs that are complained of are those that no class lists, and they
may be left out of the whitelist.
-/
namespace VerbDoc

/-! ## What is listed is in upper case -/

/-- The whitelist counts only for upper cases of names. -/
theorem filter_map_upper_congr {whitelist other : List Text}
    (hsame : ∀ name, Text.upper name ∈ whitelist ↔ Text.upper name ∈ other) (names : List Text) :
    (names.map Text.upper).filter whitelist.contains =
      (names.map Text.upper).filter other.contains := by
  apply List.filter_congr
  intro verb hverb
  obtain ⟨name, -, rfl⟩ := List.mem_map.1 hverb
  simp [hsame name]

theorem Lineage.verbs_congr {whitelist other : List Text}
    (hsame : ∀ name, Text.upper name ∈ whitelist ↔ Text.upper name ∈ other) (l : Lineage) :
    l.verbs whitelist = l.verbs other := by
  rw [← l.implementedVerbs_eq, ← l.implementedVerbs_eq]
  exact filter_map_upper_congr hsame l.routineNames

namespace Instance

theorem listVerbs_congr {whitelist other : List Text}
    (hsame : ∀ name, Text.upper name ∈ whitelist ↔ Text.upper name ∈ other) (i : Instance)
    (l : Lineage) : i.listVerbs l whitelist = i.listVerbs l other := by
  unfold listVerbs
  cases i.replacement with
  | some v =>
    dsimp only
    rw [Outcome.listVerbs, filter_map_upper_congr hsame]
    rfl
  | none =>
    dsimp only
    rw [Lineage.listVerbs, l.verbs_congr hsame]
    rfl

/-- Whatever lists a verb has a name for it. -/
theorem exists_upper_eq_of_listed {i : Instance} {l : Lineage} {whitelist verbs : List Text}
    (hverbs : (i.listVerbs l whitelist).1 = .ok verbs) {verb : Text} (hverb : verb ∈ verbs) :
    ∃ name, Text.upper name = verb := by
  unfold listVerbs at hverbs
  cases hreplacement : i.replacement with
  | some v =>
    rw [hreplacement] at hverbs
    rw [← Except.ok.inj hverbs] at hverb
    obtain ⟨name, -, hname⟩ := List.mem_map.1 (List.mem_filter.1 hverb).1
    exact ⟨name, hname⟩
  | none =>
    rw [hreplacement] at hverbs
    obtain ⟨-, rfl⟩ := Lineage.listVerbs_eq_ok_iff.1 hverbs
    obtain ⟨o, -, hname⟩ := List.mem_map.1 (List.mem_filter.1 hverb).1
    exact ⟨o.name, hname⟩

end Instance

namespace Hierarchy

/-- An object of the class lists the verb under the whitelist. -/
def Lists (h : Hierarchy) (className : Text) (whitelist : List Text) (verb : Text) : Prop :=
  ∃ next verbs log,
    h.inspect (.verbs className whitelist) = .ok (next, .verbs verbs, log) ∧ verb ∈ verbs

variable {h : Hierarchy} {className verb : Text} {whitelist : List Text}

theorem exists_listVerbs_of_inspect {next : Hierarchy} {verbs : List Text} {log : List Log.Event}
    (hfound : h.inspect (.verbs className whitelist) = .ok (next, .verbs verbs, log)) :
    ∃ (i : Instance) (l : Lineage), (i.listVerbs l whitelist).1 = .ok verbs := by
  obtain ⟨l, -, hfound⟩ := Record.of_bind_eq_ok hfound
  obtain ⟨i, -, hfound⟩ := Record.of_bind_eq_ok hfound
  obtain ⟨l', -, hfound⟩ := Record.of_bind_eq_ok hfound
  obtain ⟨l'', -, hfound⟩ := Record.of_bind_eq_ok hfound
  obtain ⟨verbs', hverbs, hfound⟩ := Record.of_bind_eq_ok hfound
  cases hfound
  exact ⟨i, l'', hverbs⟩

theorem exists_upper_eq_of_lists (hlists : h.Lists className whitelist verb) :
    ∃ name, Text.upper name = verb := by
  obtain ⟨next, verbs, log, hfound, hverb⟩ := hlists
  obtain ⟨i, l, hverbs⟩ := exists_listVerbs_of_inspect hfound
  exact Instance.exists_upper_eq_of_listed hverbs hverb

end Hierarchy

/-! ## A class for each verb -/

/-- No name that means something to a class is in upper case. -/
theorem upper_ne_of_mem_heededNames : ∀ name ∈ heededNames, Text.upper name ≠ name := by
  decide +kernel

namespace Lineage

variable {name : Text} {whitelist : List Text}

theorem not_withheld_soleMethod (hname : ∀ other ∈ heededNames, name ≠ other) :
    ∀ o ∈ (soleMethod name).operations, (soleMethod name).withholds o = false := by
  rw [not_withheld_iff]
  intro hmem
  have hroutine := (List.mem_filter.1 hmem).2
  rw [routine?, attribute?_soleMethod (hname _ (by decide)) (by decide)] at hroutine
  exact absurd hroutine (by decide)

theorem mem_verbs_soleMethod (hlisted : Text.upper name ∈ whitelist) :
    Text.upper name ∈ (soleMethod name).verbs whitelist := by
  have hroutine : (routine? (soleMethod name) name).isSome = true := by
    rw [routine?, attribute?_soleMethod_self]
    rfl
  rw [← implementedVerbs_eq]
  exact (upper_mem_implementedVerbs_iff hroutine).2 hlisted

/-- An object of the class is made as every endpoint is. -/
theorem sample_soleMethod (hname : ∀ other ∈ heededNames, name ≠ other) :
    Lineage.sample (soleMethod name) = .ok ⟨false, none⟩ := by
  have hendpoint : isEndpoint (soleMethod name) = true := rfl
  have hnew : (soleMethod name).attribute? SpecialName.creation = none :=
    attribute?_soleMethod (hname _ (by decide)) (by decide)
  have hinit : (soleMethod name).attribute? Builtin.create.name = some (.builtin .create) :=
    attribute?_soleMethod (hname _ (by decide)) (by decide)
  have hassign : (soleMethod name).attribute? SpecialName.assignment = none :=
    attribute?_soleMethod (hname _ (by decide)) (by decide)
  have hparts : ∀ part ∈ Endpoint.partNames,
      Endpoint.hasProperty (soleMethod name) part = false := by
    intro part hpart
    by_cases hsame : name = part
    · subst hsame
      rw [Endpoint.hasProperty, attribute?_soleMethod_self]
      rfl
    · have hother : ∀ part ∈ Endpoint.partNames,
          part ∉ [SpecialName.home, SpecialName.description] ∧
            Endpoint.hasProperty [.base] part = false := by decide
      rw [Endpoint.hasProperty, attribute?_soleMethod hsame (hother part hpart).1]
      exact (hother part hpart).2
  rw [sample, if_pos hendpoint, Endpoint.create_eq_ok _ _ _ hnew hinit hassign hparts]
  rfl

end Lineage

namespace Hierarchy

variable {name : Text} {whitelist : List Text}

theorem exists_inspect_soleMethod (hname : ∀ other ∈ heededNames, name ≠ other)
    (whitelist : List Text) :
    ∃ next log, (soleMethod name).inspect (.verbs "H".toList whitelist) =
      .ok (next, .verbs ((Lineage.soleMethod name).verbs whitelist), log) := by
  have hfind : (soleMethod name).find "H".toList = .ok (.soleMethod name) := rfl
  have hlist := Lineage.listVerbs_of_not_withheld (Lineage.not_withheld_soleMethod hname) whitelist
  simp only [inspect, hfind, Lineage.sample_soleMethod hname, afterMaking, Instance.listVerbs,
    hlist, bind, Except.bind, pure, Except.pure, Bool.false_eq_true, if_false, Option.isSome_none]
  exact ⟨_, _, rfl⟩

/-- Under a name that means nothing to a class, a class may have a method, and lists its verb. -/
theorem exists_lists (hname : ∀ other ∈ heededNames, name ≠ other)
    (hlisted : Text.upper name ∈ whitelist) :
    ∃ cs h className, initial.declareAll cs = .ok h ∧
      h.Lists className whitelist (Text.upper name) := by
  obtain ⟨next, log, hfound⟩ := exists_inspect_soleMethod hname whitelist
  exact ⟨_, _, _, declareAll_soleMethod hname, next, _, log, hfound,
    Lineage.mem_verbs_soleMethod hlisted⟩

end Hierarchy

/-! ## What is complained of -/

namespace Settings

def whitelist (s : Settings) : List Text := Text.sortedSet (Text.commaItems s.httpVerbs)

/-- Some complaint says of the verb that it is not in upper case. -/
def NamesVerb (s : Settings) (verb : Text) : Prop :=
  ∃ c ∈ s.complaints, ∃ named,
    c.message = "HTTP verbs must be upper-case: ".toList ++ named ∧ verb ∈ Text.commaItems named

variable {s : Settings} {verb : Text}

theorem mem_notUpperCase_iff {verbs : Text} :
    verb ∈ notUpperCase verbs ↔ verb ∈ Text.commaItems verbs ∧ verb ≠ Text.upper verb := by
  simp [notUpperCase]

theorem notUpperCase_mem_complaints_iff {verbs : List Text} :
    .notUpperCase verbs ∈ s.complaints ↔ verbs = notUpperCase s.httpVerbs ∧ verbs ≠ [] := by
  have hothers : .notUpperCase verbs ∈ s.complaints ↔
      .notUpperCase verbs ∈ verbComplaints s.httpVerbs := by
    simp [complaints]
  rw [hothers, verbComplaints]
  split
  · next hempty =>
    have hnone : notUpperCase s.httpVerbs = [] := by simp_all [notUpperCase]
    simp +contextual [hnone]
  · split
    · next hnone => simp +contextual [List.isEmpty_iff.1 hnone]
    · next hsome =>
      rw [List.mem_singleton, Complaint.notUpperCase.injEq]
      refine ⟨fun hsame => ⟨hsame, ?_⟩, And.left⟩
      rw [hsame]
      simpa using hsome

/-- The verbs that are complained of can be read off the message. -/
theorem commaItems_of_message {c : Complaint} (hc : c ∈ s.complaints) {named : Text}
    (hmessage : c.message = "HTTP verbs must be upper-case: ".toList ++ named) :
    Text.commaItems named = notUpperCase s.httpVerbs := by
  have hhead := congrArg List.head? hmessage
  cases c with
  | notUpperCase verbs =>
    obtain ⟨rfl, -⟩ := notUpperCase_mem_complaints_iff.1 hc
    rw [← List.append_cancel_left hmessage]
    apply Text.commaItems_listed_of_isItem
    intro item hitem
    exact Text.isItem_of_mem_commaItems (mem_notUpperCase_iff.1 hitem).1
  | noVerbs => cases hhead
  | noContentTypes => cases hhead
  | noAcceptTypes => cases hhead
  | emptyMarker => cases hhead

theorem namesVerb_iff :
    s.NamesVerb verb ↔ verb ∈ Text.commaItems s.httpVerbs ∧ verb ≠ Text.upper verb := by
  rw [← mem_notUpperCase_iff]
  constructor
  · rintro ⟨c, hc, named, hmessage, hverb⟩
    rwa [commaItems_of_message hc hmessage] at hverb
  · intro hverb
    have hc : .notUpperCase (notUpperCase s.httpVerbs) ∈ s.complaints :=
      notUpperCase_mem_complaints_iff.2 ⟨rfl, List.ne_nil_of_mem hverb⟩
    refine ⟨_, hc, _, rfl, ?_⟩
    rwa [commaItems_of_message hc rfl]

instance (s : Settings) (verb : Text) : Decidable (s.NamesVerb verb) :=
  decidable_of_iff ((notUpperCase s.httpVerbs).contains verb = true) <| by
    rw [List.contains_iff_mem, mem_notUpperCase_iff, namesVerb_iff]

def acceptedVerbs (s : Settings) : List Text := s.whitelist.filter fun verb => ¬s.NamesVerb verb

theorem upper_mem_acceptedVerbs_iff (s : Settings) (name : Text) :
    Text.upper name ∈ s.acceptedVerbs ↔ Text.upper name ∈ s.whitelist := by
  have hunnamed : ¬s.NamesVerb (Text.upper name) := by
    rw [namesVerb_iff, Text.upper_upper]
    exact fun hnamed => hnamed.2 rfl
  simp [acceptedVerbs, hunnamed]

/-- A verb of the settings is complained of exactly where no class whatever lists it. -/
theorem namesVerb_iff_not_lists (hverb : verb ∈ Text.commaItems s.httpVerbs) :
    s.NamesVerb verb ↔ ∀ cs h, Hierarchy.initial.declareAll cs = .ok h →
      ∀ className, ¬h.Lists className s.whitelist verb := by
  rw [namesVerb_iff, and_iff_right hverb]
  constructor
  · intro hlower cs h _ className hlists
    obtain ⟨name, hname⟩ := Hierarchy.exists_upper_eq_of_lists hlists
    exact Text.upper_ne hlower name hname
  · intro hnone hupper
    -- In upper case, the verb is the name of a method that stands for it.
    have hname : ∀ other ∈ heededNames, verb ≠ other := by
      rintro other hother rfl
      exact upper_ne_of_mem_heededNames verb hother hupper.symm
    have hlisted : Text.upper verb ∈ s.whitelist := by
      rw [← hupper]
      exact Text.mem_sortedSet.2 hverb
    obtain ⟨cs, h, className, hdeclare, hlists⟩ := Hierarchy.exists_lists hname hlisted
    rw [← hupper] at hlists
    exact hnone cs h hdeclare className hlists

/-- The check of the verbs is exact: those that are complained of are those that no class lists,
and every object lists the same verbs when they are left out of the whitelist. -/
theorem verbCheck_exact (s : Settings) :
    (∀ config, Configuration.ofSettings s = .ok config → config.verbs = s.whitelist) ∧
    (∀ verb ∈ Text.commaItems s.httpVerbs,
      s.NamesVerb verb ↔ ∀ cs h, Hierarchy.initial.declareAll cs = .ok h →
        ∀ className, ¬h.Lists className s.whitelist verb) ∧
    ∀ (i : Instance) (l : Lineage), i.listVerbs l s.acceptedVerbs = i.listVerbs l s.whitelist := by
  refine ⟨?_, fun verb hverb => namesVerb_iff_not_lists hverb,
    Instance.listVerbs_congr s.upper_mem_acceptedVerbs_iff⟩
  intro config hs
  obtain ⟨-, rfl⟩ := Configuration.eq_of_ofSettings hs
  rfl

/-- The standard settings with two verbs, one of which is not in upper case. -/
def mixedCaseSettings : Settings := { Settings.standard with httpVerbs := "GET, Post".toList }

theorem verbCheck_exact_mixedCase :
    "Post".toList ∈ Text.commaItems mixedCaseSettings.httpVerbs ∧
      mixedCaseSettings.NamesVerb "Post".toList ∧
      (∀ cs h, Hierarchy.initial.declareAll cs = .ok h →
        ∀ className, ¬h.Lists className mixedCaseSettings.whitelist "Post".toList) ∧
      ¬mixedCaseSettings.NamesVerb "GET".toList ∧
      (∀ (i : Instance) (l : Lineage),
        i.listVerbs l ["GET".toList] = i.listVerbs l ["GET".toList, "Post".toList]) := by
  have hpost : "Post".toList ∈ Text.commaItems mixedCaseSettings.httpVerbs := by decide
  have hnamed : mixedCaseSettings.NamesVerb "Post".toList := by decide +kernel
  have haccepted : mixedCaseSettings.acceptedVerbs = ["GET".toList] := by decide +kernel
  have hwhitelist : mixedCaseSettings.whitelist = ["GET".toList, "Post".toList] := by decide +kernel
  obtain ⟨-, hexact, hlisted⟩ := verbCheck_exact mixedCaseSettings
  rw [haccepted, hwhitelist] at hlisted
  exact ⟨hpost, hnamed, (hexact _ hpost).1 hnamed, by decide +kernel, hlisted⟩

end Settings
end VerbDoc
