import VerbDoc.Proofs.Endpoint.Answering
import VerbDoc.Proofs.Endpoint.ReadingBack
import VerbDoc.Proofs.Endpoint.Sparing

/-!
# OPTIONS among other calls

OPTIONS adds to the Allow header and goes through the operations of the class. Where the members of
the class leave that header alone, neither is seen by any other call. Main statement: a run of calls
is the run without its OPTIONS calls, apart from the Allow header, which has the same line once more
for each of them, exactly where the class lets OPTIONS answer and lists its verbs steadily.
-/
namespace VerbDoc

namespace Lineage

variable {l : Lineage} {whitelist : List Text} {header name : Text}

/-- The name of a method that stands for a verb, of HEAD or of OPTIONS. -/
def Calls (l : Lineage) (whitelist : List Text) (name : Text) : Prop :=
  name = Builtin.head.name ∨ name = Builtin.options.name ∨
    (l.routine? name).isSome = true ∧ Text.upper name ∈ whitelist

/-- A class that lists its verbs steadily keeps its methods when its operations are gone through. -/
theorem ListsSteadily.attribute?_listed (h : l.ListsSteadily whitelist)
    (hname : l.Calls whitelist name) : l.listed.attribute? name = l.attribute? name := by
  by_cases htypes : name = SpecialName.types
  · rcases hname with rfl | rfl | ⟨hroutine, hlisted⟩
    · exact absurd htypes (by decide)
    · exact absurd htypes (by decide)
    · subst htypes
      rcases l.afterPassing_eq l.operations with hsame | ⟨d, rest, rfl, hnext, hown⟩
      · rw [listed, hsame]
      · -- A record would hide the verb of its name.
        have hverbs := h.verbs_listed
        rw [listed, hnext, verbs_withTypes_iff (mem_routineNames_of_isSome hroutine) hown] at hverbs
        exact absurd hlisted hverbs
  · exact l.attribute?_listed htypes

theorem spares_listed (h : l.Spares header) : l.listed.Spares header := by
  intro name a ha
  by_cases htypes : name = SpecialName.types
  · subst htypes
    rcases l.afterPassing_eq l.operations with hsame | ⟨d, rest, rfl, hnext, hown⟩
    · rw [listed, hsame] at ha
      exact h _ _ ha
    · -- The record is a plain value.
      rw [listed, hnext, attribute?_cons,
        Ancestor.attributes_keepTypes (Ancestor.not_mem_later_of_find_eq_none hown),
        OrderedMap.find_append, hown] at ha
      cases ha
      trivial
  · rw [l.attribute?_listed htypes] at ha
    exact h _ _ ha

theorem verbs_listed_sublist (l : Lineage) (whitelist : List Text) :
    (l.listed.verbs whitelist).Sublist (l.verbs whitelist) := by
  rcases l.afterPassing_eq l.operations with hsame | ⟨d, rest, rfl, hnext, hown⟩
  · simp only [listed, hsame, List.Sublist.refl]
  · rw [listed, hnext, verbs, verbs, operations_withTypes hown]
    exact (List.filter_sublist.map _).filter _

/-- Where no verb is left once the operations have been gone through, none of them was empty. -/
theorem ne_nil_of_verbs_listed_eq_nil (h : l.listed.verbs whitelist = []) {verb : Text}
    (hverb : verb ∈ l.verbs whitelist) : verb ≠ [] := by
  obtain ⟨hmem, hlisted⟩ := List.mem_filter.1 hverb
  obtain ⟨o, ho, rfl⟩ := List.mem_map.1 hmem
  by_cases htypes : o.name = SpecialName.types
  · rw [Operation.verb, htypes]
    decide +kernel
  · have hkept : o.verb ∈ l.listed.verbs whitelist :=
      List.mem_filter.2 ⟨List.mem_map_of_mem (mem_operations_listed ho htypes), hlisted⟩
    rw [h] at hkept
    cases hkept

end Lineage

namespace Endpoint

variable {e : Endpoint} {config : Configuration} {r s : Response} {l : Lineage}

/-! ## Runs of calls -/

def callAll (e : Endpoint) (names : List Text) : Endpoint × List (Run Answer) :=
  e.runCalls (names.map .method)

/-- How each of the calls ends, under its name and without the entries of a header. -/
def outcomes (e : Endpoint) (header : Text) (names : List Text) :
    List (Text × Except Fault Answer) :=
  names.zip ((e.callAll names).2.map fun run => run.result.map (Answer.without header))

def withoutOptions (names : List Text) : List Text :=
  names.filter fun name => name != Builtin.options.name

def headerValues (e : Endpoint) (name : Text) : Except Fault (List Value) :=
  match e.response with
  | .response r => (Message.response r).headerValues (.text name)
  | _ => .error .missingAttribute

/-- The run is that of its other calls, apart from the Allow header. That has the verbs of the class
once more for each OPTIONS call, and all OPTIONS calls give the same descriptor. -/
structure TransparentOn (e : Endpoint) (config : Configuration) (names : List Text) : Prop where
  others : (e.outcomes "Allow".toList names).filter (fun o => o.1 != Builtin.options.name) =
    e.outcomes "Allow".toList (withoutOptions names)
  apart : (e.callAll names).1.response.without "Allow".toList =
    (e.callAll (withoutOptions names)).1.response.without "Allow".toList
  allowed : (e.callAll names).1.headerValues "Allow".toList =
    (e.headerValues "Allow".toList).map (· ++ List.replicate (names.count Builtin.options.name)
      (.text (Text.listed (e.lineage.implementedVerbs config.verbs))))
  described : ∃ d, ∀ o ∈ e.outcomes "Allow".toList names, o.1 = Builtin.options.name →
    o.2 = .ok (.descriptor d)

theorem fst_callAll_cons (e : Endpoint) (name : Text) (rest : List Text) :
    (e.callAll (name :: rest)).1 = ((e.callMethod name).endpoint.callAll rest).1 := rfl

theorem outcomes_cons (e : Endpoint) (header name : Text) (rest : List Text) :
    e.outcomes header (name :: rest) =
      (name, (e.callMethod name).result.map (Answer.without header)) ::
        (e.callMethod name).endpoint.outcomes header rest := rfl

theorem headerValues_of_response (hresponse : e.response = .response r) (name : Text) :
    e.headerValues name = .ok (r.headers.values name) := by
  rw [headerValues, hresponse]
  rfl

theorem on_self (hresponse : e.response = .response r) : e.on e.lineage r = e := by
  rw [on, ← hresponse]

/-! ## OPTIONS -/

theorem ServesOptions.attach (h : e.ServesOptions config) (r : Response) :
    (e.attach (.response r)).ServesOptions config :=
  ⟨h.reads_plainly, h.options_inherited, h.options_unhidden, h.documentVerb_inherited,
    h.documentVerb_unhidden, rfl, h.configured⟩

/-- The class as it is, or after its operations have been gone through. -/
def InState (e : Endpoint) (l : Lineage) : Prop := l = e.lineage ∨ l = e.lineage.listed

theorem InState.serves (hl : e.InState l) (h : e.ServesOptions config) (r : Response) :
    (e.on l r).ServesOptions config := by
  rcases hl with rfl | rfl
  · exact h.attach r
  · exact h.attach_listed rfl

theorem InState.listed_eq (hl : e.InState l) : l.listed = e.lineage.listed := by
  rcases hl with rfl | rfl
  · rfl
  · exact e.lineage.listed_listed

/-- In either state OPTIONS adds the same line and gives the same descriptor. -/
theorem exists_options_on (h : e.ServesOptions config) (hmarker : config.marker ≠ [])
    (hlets : e.lineage.LetsAnswer config.verbs) (hsteady : e.lineage.ListsSteadily config.verbs) :
    ∃ d, ∀ l, e.InState l → ∀ r : Response,
      ((e.on l r).callMethod Builtin.options.name).endpoint =
        e.on e.lineage.listed (r.addHeader "Allow".toList
          (.text (Text.listed (e.lineage.verbs config.verbs)))) ∧
      ((e.on l r).callMethod Builtin.options.name).result = .ok (.descriptor d) := by
  obtain ⟨hopen, docOf, hdocs⟩ := (e.lineage.letsAnswer_iff config.verbs hmarker).1 hlets
  refine ⟨{ blankDescriptor config with
    methods := .ofKeys (fun verb => .documentation (docOf verb))
      ((e.lineage.verbs config.verbs).filter fun verb => !(docOf verb).isEmpty) }, ?_⟩
  intro l hl r
  have hserves := hl.serves h r
  have hverbs : l.verbs config.verbs = e.lineage.verbs config.verbs := by
    rcases hl with rfl | rfl
    · rfl
    · exact hsteady.verbs_listed
  have hopen' : ∀ o ∈ l.operations, l.withholds o = false := by
    rcases hl with rfl | rfl
    · exact hopen
    · exact Lineage.not_withheld_listed_iff.2 hopen
  have hallow := allowing_of_response (e := e.on l r) rfl (l.verbs config.verbs)
  have hdocs' : ∀ verb ∈ l.verbs config.verbs,
      (l.listed.document (.ok config.marker) verb).1 = .ok (docOf verb) := by
    rw [hverbs, hl.listed_eq]
    exact hdocs
  constructor
  · rw [hserves.callMethod_options]
    change (e.on l r).options.endpoint = _
    rw [hserves.endpoint_options rfl hopen']
    change e.on l.listed (r.addHeader _ (.text (Text.listed (l.verbs config.verbs)))) = _
    rw [hverbs, hl.listed_eq]
  · obtain ⟨-, hresult⟩ := hserves.options_of_documents hopen' hallow hdocs'
    rw [← hverbs]
    exact hserves.result_callMethod_options hresult

/-! ## The run and the run without OPTIONS -/

/-- What the run with OPTIONS and the run without it have come to from the same endpoint. -/
structure RunsAlike (e : Endpoint) (joined : Value) (d : Descriptor) (l : Lineage) (r s : Response)
    (names : List Text) : Prop where
  ends : ∃ l' r' s', ((e.on l r).callAll names).1 = e.on l' r' ∧
    ((e.on e.lineage s).callAll (withoutOptions names)).1 = e.on e.lineage s' ∧
    s'.without "Allow".toList = r'.without "Allow".toList ∧
    r'.headers.values "Allow".toList = r.headers.values "Allow".toList ++
      List.replicate (names.count Builtin.options.name) joined
  others : ((e.on l r).outcomes "Allow".toList names).filter
      (fun o => o.1 != Builtin.options.name) =
    (e.on e.lineage s).outcomes "Allow".toList (withoutOptions names)
  described : ∀ o ∈ (e.on l r).outcomes "Allow".toList names, o.1 = Builtin.options.name →
    o.2 = .ok (.descriptor d)

namespace RunsAlike

variable {joined : Value} {d : Descriptor} {rest : List Text}

theorem cons_options
    (hendpoint : ((e.on l r).callMethod Builtin.options.name).endpoint =
      e.on e.lineage.listed (r.addHeader "Allow".toList joined))
    (hresult : ((e.on l r).callMethod Builtin.options.name).result = .ok (.descriptor d))
    (h : e.RunsAlike joined d e.lineage.listed (r.addHeader "Allow".toList joined) s rest) :
    e.RunsAlike joined d l r s (Builtin.options.name :: rest) := by
  obtain ⟨⟨l', r', s', hfirst, hsecond, hlast, hvalues⟩, hothers, hdescribed⟩ := h
  have hcalls : withoutOptions (Builtin.options.name :: rest) = withoutOptions rest := by
    rw [withoutOptions, List.filter_cons_of_neg (by simp)]
    rfl
  refine ⟨⟨l', r', s', ?_, ?_, hlast, ?_⟩, ?_, ?_⟩
  · rw [fst_callAll_cons, hendpoint, hfirst]
  · rw [hcalls, hsecond]
  · rw [hvalues, Response.addHeader, r.headers.values_add_self rfl, List.count_cons_self,
      List.replicate_succ, List.append_assoc]
    rfl
  · rw [outcomes_cons, hendpoint, List.filter_cons_of_neg (by simp), hothers, hcalls]
  · intro o ho hoptions
    rw [outcomes_cons, hendpoint, List.mem_cons] at ho
    rcases ho with rfl | ho
    · dsimp only
      rw [hresult]
      rfl
    · exact hdescribed o ho hoptions

theorem cons_method {name : Text} (hname : name ≠ Builtin.options.name) {r' s' : Response}
    (hfirst : ((e.on l r).callMethod name).endpoint = e.on l r')
    (hsecond : ((e.on e.lineage s).callMethod name).endpoint = e.on e.lineage s')
    (hends : ((e.on l r).callMethod name).result.map (Answer.without "Allow".toList) =
      ((e.on e.lineage s).callMethod name).result.map (Answer.without "Allow".toList))
    (hkept : r'.headers.values "Allow".toList = r.headers.values "Allow".toList)
    (h : e.RunsAlike joined d l r' s' rest) : e.RunsAlike joined d l r s (name :: rest) := by
  obtain ⟨⟨l', r'', s'', hlastFirst, hlastSecond, hlast, hvalues⟩, hothers, hdescribed⟩ := h
  have hcalls : withoutOptions (name :: rest) = name :: withoutOptions rest :=
    List.filter_cons_of_pos (by simpa using hname)
  refine ⟨⟨l', r'', s'', ?_, ?_, hlast, ?_⟩, ?_, ?_⟩
  · rw [fst_callAll_cons, hfirst, hlastFirst]
  · rw [hcalls, fst_callAll_cons, hsecond, hlastSecond]
  · rw [hvalues, hkept, List.count_cons_of_ne hname]
  · rw [hcalls, outcomes_cons, outcomes_cons, hfirst, hsecond, hends,
      List.filter_cons_of_pos (by simpa using hname), hothers]
  · intro o ho hoptions
    rw [outcomes_cons, hfirst, List.mem_cons] at ho
    rcases ho with rfl | ho
    · exact absurd hoptions hname
    · exact hdescribed o ho hoptions

end RunsAlike

/-- Both runs are alike to the end. -/
theorem runsAlike (hsteady : e.lineage.ListsSteadily config.verbs) (hhead : e.ServesHead)
    (hspares : e.lineage.Spares "Allow".toList) {joined : Value} {d : Descriptor}
    (hoptions : ∀ l, e.InState l → ∀ r : Response,
      ((e.on l r).callMethod Builtin.options.name).endpoint =
        e.on e.lineage.listed (r.addHeader "Allow".toList joined) ∧
      ((e.on l r).callMethod Builtin.options.name).result = .ok (.descriptor d))
    {names : List Text} (hnames : ∀ name ∈ names, e.lineage.Calls config.verbs name)
    (hl : e.InState l) (hrs : s.without "Allow".toList = r.without "Allow".toList) :
    e.RunsAlike joined d l r s names := by
  induction names generalizing l r s with
  | nil => exact ⟨⟨l, r, s, rfl, rfl, hrs, by simp⟩, rfl, by simp [outcomes]⟩
  | cons name rest ih =>
    have hrest := fun other hother => hnames other (List.mem_cons_of_mem name hother)
    by_cases hname : name = Builtin.options.name
    · subst hname
      obtain ⟨hendpoint, hresult⟩ := hoptions l hl r
      refine .cons_options hendpoint hresult (ih hrest (.inr rfl) ?_)
      rw [hrs, Response.without_addHeader_self r rfl]
    · have hcalls := hnames name (by simp)
      have hlookup : l.attribute? name = e.lineage.attribute? name := by
        rcases hl with rfl | rfl
        · rfl
        · exact hsteady.attribute?_listed hcalls
      have hroutine : (l.routine? name).isSome = true := by
        rw [Lineage.routine?, hlookup]
        rcases hcalls with rfl | rfl | ⟨hroutine, -⟩
        · rw [hhead.head_inherited]
          rfl
        · exact absurd rfl hname
        · exact hroutine
      have halike : l.SparesAlike "Allow".toList e.lineage := by
        rcases hl with rfl | rfl
        · exact ⟨hhead.reads_plainly, hspares, fun _ _ => rfl⟩
        · exact ⟨(e.lineage.attribute?_listed (by decide)).trans hhead.reads_plainly,
            Lineage.spares_listed hspares,
            fun other hother => (e.lineage.attribute?_listed hother).symm⟩
      obtain ⟨r', s', hfirst, hsecond, hnext, hkept, hends⟩ :=
        callMethod_endsApart (e := e) halike hrs hroutine hlookup.symm hname
      exact .cons_method hname hfirst hsecond hends hkept (ih hrest hl hnext)

/-! ## Transparency -/

theorem transparentOn_of_steady (h : e.ServesOptions config) (hhead : e.ServesHead)
    (hmarker : config.marker ≠ []) (hresponse : e.response = .response r)
    (hspares : e.lineage.Spares "Allow".toList) (hlets : e.lineage.LetsAnswer config.verbs)
    (hsteady : e.lineage.ListsSteadily config.verbs) {names : List Text}
    (hnames : ∀ name ∈ names, e.lineage.Calls config.verbs name) :
    e.TransparentOn config names := by
  obtain ⟨d, hoptions⟩ := exists_options_on h hmarker hlets hsteady
  obtain ⟨⟨l', r', s', hfirst, hsecond, hlast, hvalues⟩, hothers, hdescribed⟩ :=
    runsAlike (s := r) hsteady hhead hspares hoptions hnames (.inl rfl) rfl
  rw [on_self hresponse] at hfirst hsecond hothers hdescribed
  refine ⟨hothers, ?_, ?_, d, hdescribed⟩
  · rw [hfirst, hsecond]
    exact congrArg Attached.response hlast.symm
  · rw [hfirst, headerValues_of_response rfl, headerValues_of_response hresponse,
      Lineage.implementedVerbs_eq]
    exact congrArg Except.ok hvalues

/-- A single OPTIONS call tells whether the class lets it answer. -/
theorem letsAnswer_of_transparentOn (h : e.ServesOptions config) (hmarker : config.marker ≠ [])
    (honce : e.TransparentOn config [Builtin.options.name]) :
    e.lineage.LetsAnswer config.verbs := by
  obtain ⟨d, hdescribed⟩ := honce.described
  have hresult : (e.callMethod Builtin.options.name).result.map (Answer.without "Allow".toList) =
      .ok (.descriptor d) := hdescribed _ (List.mem_cons_self ..) rfl
  have hanswers : e.Answers := by
    cases hcall : (e.callMethod Builtin.options.name).result with
    | error f =>
      rw [hcall] at hresult
      cases hresult
    | ok answer =>
      rw [hcall] at hresult
      cases answer with
      | descriptor given => exact ⟨given, hcall⟩
      | _ => cases hresult
  exact ((h.answers_iff hmarker).1 hanswers).2

/-- Two OPTIONS calls tell whether the class lists its verbs steadily. -/
theorem listsSteadily_of_transparentOn (h : e.ServesOptions config)
    (hresponse : e.response = .response r)
    (hopen : ∀ o ∈ e.lineage.operations, e.lineage.withholds o = false)
    (htwice : e.TransparentOn config [Builtin.options.name, Builtin.options.name]) :
    e.lineage.ListsSteadily config.verbs := by
  obtain ⟨s, hs⟩ : ∃ s, s = r.addHeader "Allow".toList
      (.text (Text.listed (e.lineage.verbs config.verbs))) := ⟨_, rfl⟩
  have hfirst : (e.callMethod Builtin.options.name).endpoint = e.on e.lineage.listed s := by
    rw [h.callMethod_options, hs]
    exact h.endpoint_options hresponse hopen
  have hserves : (e.on e.lineage.listed s).ServesOptions config := InState.serves (.inr rfl) h s
  have hsecond : (e.callAll [Builtin.options.name, Builtin.options.name]).1.response =
      .response (s.addHeader "Allow".toList
        (.text (Text.listed (e.lineage.listed.verbs config.verbs)))) := by
    rw [fst_callAll_cons, hfirst, fst_callAll_cons, hserves.callMethod_options]
    exact hserves.response_options rfl (Lineage.not_withheld_listed_iff.2 hopen)
  -- The header has both lines, and the first of them is due twice.
  have hallowed := htwice.allowed
  rw [headerValues_of_response hsecond, headerValues_of_response hresponse,
    Lineage.implementedVerbs_eq] at hallowed
  have hvalues := Except.ok.inj hallowed
  rw [Response.addHeader, Headers.values_add_self _ rfl, hs, Response.addHeader,
    Headers.values_add_self _ rfl, List.append_assoc] at hvalues
  have hlines := List.append_cancel_left hvalues
  simp only [List.cons_append, List.nil_append, List.count_cons_self, List.count_nil, Nat.zero_add,
    Nat.reduceAdd, List.replicate_succ, List.replicate_zero, List.cons.injEq, Value.text.injEq,
    true_and, and_true] at hlines
  refine ⟨hopen, Text.eq_of_listed_eq (e.lineage.verbs_listed_sublist config.verbs) ?_ hlines⟩
  exact fun hnone _ => Lineage.ne_nil_of_verbs_listed_eq_nil hnone

/-- OPTIONS is transparent to every run of methods that stand for verbs, of HEAD and of OPTIONS. -/
theorem options_transparent_iff (h : e.ServesOptions config) (hhead : e.ServesHead)
    (hmarker : config.marker ≠ []) (hresponse : e.response = .response r)
    (hspares : e.lineage.Spares "Allow".toList) :
    ((∀ names, (∀ name ∈ names, e.lineage.Calls config.verbs name) →
      e.TransparentOn config names) ↔
        e.lineage.LetsAnswer config.verbs ∧ e.lineage.ListsSteadily config.verbs) ∧
    (∀ d rest, e.lineage = .declared d :: rest →
      (e.lineage.ListsSteadily config.verbs ↔ e.lineage.OwnsSpecialRoutines config.verbs)) := by
  refine ⟨⟨?_, ?_⟩, ?_⟩
  · intro hall
    have hcalls : ∀ name ∈ [Builtin.options.name, Builtin.options.name],
        e.lineage.Calls config.verbs name := by
      intro name hname
      simp only [List.mem_cons, List.not_mem_nil, or_false, or_self] at hname
      exact .inr (.inl hname)
    have hlets := letsAnswer_of_transparentOn h hmarker
      (hall _ fun name hname => hcalls name (List.mem_cons_of_mem _ hname))
    have hopen := ((e.lineage.letsAnswer_iff config.verbs hmarker).1 hlets).1
    exact ⟨hlets, listsSteadily_of_transparentOn h hresponse hopen (hall _ hcalls)⟩
  · rintro ⟨hlets, hsteady⟩ names hnames
    exact transparentOn_of_steady h hhead hmarker hresponse hspares hlets hsteady hnames
  · intro d rest hlineage
    rw [hlineage]
    exact Lineage.listsSteadily_iff

/-- A class with a GET that adds a header, and a PUT that fails halfway. -/
def pagesLineage : Lineage :=
  Lineage.derive [.base] "Pages".toList
    [("get".toList, .routine ⟨.object, some "@apiUri /pages".toList, none,
        [.addHeader (.text "X-Total".toList) (.text "3".toList), .finish (.int 3)]⟩),
      ("put".toList, .routine ⟨.object, none, none,
        [.setStatus (.int 202) (.text []), .fail .missingAttribute]⟩)]

theorem options_transparent_pages :
    (fresh pagesLineage .standard).ServesOptions .standard ∧
      (fresh pagesLineage .standard).ServesHead ∧
      pagesLineage.Spares "Allow".toList ∧
      ∀ names, (∀ name ∈ names, pagesLineage.Calls Configuration.standard.verbs name) →
        (fresh pagesLineage .standard).TransparentOn .standard names := by
  have hserves : (fresh pagesLineage .standard).ServesOptions .standard :=
    .fresh .standard rfl rfl rfl (by decide) rfl rfl rfl
  have hhead : (fresh pagesLineage .standard).ServesHead := ⟨rfl, rfl, rfl, rfl, rfl⟩
  have hspares : pagesLineage.Spares "Allow".toList :=
    Lineage.spares_of_attributes (by decide +kernel)
  obtain ⟨htransparent, hsteady⟩ :=
    options_transparent_iff hserves hhead (by decide) rfl hspares
  have havoids : pagesLineage.AvoidsClassNames Configuration.standard.verbs := by decide +kernel
  have hdisplays : pagesLineage.DisplaysDeclared Configuration.standard.verbs := by decide +kernel
  have howns : pagesLineage.OwnsSpecialRoutines Configuration.standard.verbs := by decide +kernel
  exact ⟨hserves, hhead, hspares,
    htransparent.2 ⟨havoids.letsAnswer hdisplays, (hsteady _ _ rfl).2 howns⟩⟩

theorem not_transparentOn_recording :
    (fresh recordingLineage recordingConfiguration).ServesOptions recordingConfiguration ∧
      (fresh recordingLineage recordingConfiguration).ServesHead ∧
      recordingLineage.Spares "Allow".toList ∧
      ¬(fresh recordingLineage recordingConfiguration).TransparentOn recordingConfiguration
        [Builtin.options.name, Builtin.options.name] := by
  have hserves : (fresh recordingLineage recordingConfiguration).ServesOptions
      recordingConfiguration := .fresh _ rfl rfl rfl (by decide) rfl rfl rfl
  have hopen : ∀ o ∈ recordingLineage.operations, recordingLineage.withholds o = false := by
    decide +kernel
  refine ⟨hserves, ⟨rfl, rfl, rfl, rfl, rfl⟩, Lineage.spares_of_attributes (by decide +kernel), ?_⟩
  intro htwice
  have hsteady := listsSteadily_of_transparentOn hserves rfl hopen htwice
  exact absurd (Lineage.listsSteadily_iff.1 hsteady) (by decide +kernel)

end Endpoint
end VerbDoc
