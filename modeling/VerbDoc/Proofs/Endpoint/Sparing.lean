import VerbDoc.Proofs.Endpoint.Refusing
import VerbDoc.Proofs.Handler.Discovery
import VerbDoc.Proofs.Handler.Sparing

/-!
# Calls of methods that leave a header alone

Where the members of a class leave a header alone, no call of one of its methods looks into that
header or changes it. Main statement: on two endpoints of a class whose responses differ in the
header alone, a call of a method or of HEAD ends the same, and leaves responses that differ in it
alone.
-/
namespace VerbDoc

namespace Lineage

/-- Only the class of all endpoints has its operations, each under its own name. -/
theorem name_of_attribute?_builtin {l : Lineage} {name : Text} {b : Builtin}
    (h : l.attribute? name = some (.builtin b)) : name = b.name := by
  obtain ⟨c, -, hfound⟩ := List.exists_of_findSome?_eq_some h
  have hmem := OrderedMap.mem_of_find hfound
  cases c with
  | base =>
    simp only [Ancestor.attributes, List.mem_append, List.mem_map, Prod.mk.injEq] at hmem
    rcases hmem with ⟨b', -, hname, hb⟩ | ⟨_, -, -, hb⟩
    · cases hb
      exact hname.symm
    · cases hb
  | declared d =>
    simp only [Ancestor.attributes, List.mem_append, List.mem_map, Prod.mk.injEq] at hmem
    rcases hmem with (⟨_, -, -, hb⟩ | ⟨_, -, -, hb⟩) | hmem
    · cases hb
    · cases hb
    · split at hmem
      · cases List.mem_singleton.1 hmem
      · simp at hmem

/-- The second lineage has under every name but that of the record of types what the first has,
which has no way of reading of its own and whose members leave the header alone. -/
structure SparesAlike (header : Text) (l other : Lineage) : Prop where
  reads_plainly : l.attribute? SpecialName.reading = none
  spares : l.Spares header
  inherited : ∀ name, name ≠ SpecialName.types → other.attribute? name = l.attribute? name

end Lineage

/-- What a call gives, without the entries of a header if it is a response. -/
def Answer.without (header : Text) : Answer → Answer
  | .attached a => .attached (a.without header)
  | answer => answer

/-- What is found leaves the header alone when it is called, whatever is attached. What has been
given by something that knows of no response leaves every header alone. -/
def Found.Spares (header : Text) : Found → Prop
  | .inherited a => a.Spares header
  | .own _ => True
  | .computed o => o.Spares header
  | .lent host _ => host = .stranger
  | .attached _ | .universal _ => False

namespace Endpoint

variable {α β : Type} {e : Endpoint} {header : Text} {l other : Lineage} {r s : Response}

def on (e : Endpoint) (l : Lineage) (r : Response) : Endpoint :=
  { e with lineage := l, response := .response r }

/-- Both end the same and change nothing but the responses, which differ in the header alone in the
end; the first has the values there that it had. -/
def EndsApart (e : Endpoint) (header : Text) (l other : Lineage) (r : Response)
    (x y : Endpoint × α) : Prop :=
  ∃ r' s' : Response, x.1 = e.on l r' ∧ y.1 = e.on other s' ∧
    s'.without header = r'.without header ∧ r'.headers.values header = r.headers.values header ∧
    x.2 = y.2

namespace EndsApart

theorem resting (hrs : s.without header = r.without header) (result : α) :
    e.EndsApart header l other r (e.on l r, result) (e.on other s, result) :=
  ⟨r, s, rfl, rfl, hrs, rfl, rfl⟩

theorem map {x y : Endpoint × α} (h : e.EndsApart header l other r x y) (f : α → β) :
    e.EndsApart header l other r (x.1, f x.2) (y.1, f y.2) := by
  obtain ⟨r', s', hx, hy, hrs, hvalues, hends⟩ := h
  exact ⟨r', s', hx, hy, hrs, hvalues, congrArg f hends⟩

/-- What goes on in the same way from where both end. -/
theorem bind {x y : Endpoint × α} (h : e.EndsApart header l other r x y)
    (next : Endpoint × α → Endpoint × β)
    (hnext : ∀ (r' s' : Response) (a : α), s'.without header = r'.without header → x.2 = a →
      e.EndsApart header l other r' (next (e.on l r', a)) (next (e.on other s', a))) :
    e.EndsApart header l other r (next x) (next y) := by
  obtain ⟨r', s', hx, hy, hrs, hvalues, hends⟩ := h
  obtain ⟨after, result⟩ := x
  obtain ⟨otherAfter, otherResult⟩ := y
  dsimp only at hx hy hends
  subst hx hy hends
  obtain ⟨r'', s'', hx, hy, hlast, hkept, hends⟩ := hnext r' s' result hrs rfl
  exact ⟨r'', s'', hx, hy, hlast, hkept.trans hvalues, hends⟩

end EndsApart

/-! ## Bodies, reading and calling -/

theorem runBody_endsApart {body : List Step} (hbody : Step.AllSpare header body)
    (hrs : s.without header = r.without header) (receiver : Receiver) :
    e.EndsApart header l other r ((e.on l r).runBody receiver body)
      ((e.on other s).runBody receiver body) := by
  have hobject : e.EndsApart header l other r ((e.on l r).runBody .object body)
      ((e.on other s).runBody .object body) := by
    obtain ⟨r', s', hr, hs, hnext, hvalues, hends⟩ := Step.runAll_endApart hbody hrs
    refine ⟨r', s', ?_, ?_, hnext, hvalues, hends⟩
    · change (e.on l r).settle (Step.runAll (.object (.response r)) body).1 = _
      rw [hr]
      rfl
    · change (e.on other s).settle (Step.runAll (.object (.response s)) body).1 = _
      rw [hs]
      rfl
  -- What is no object stays as it is, and so does the endpoint.
  have hconstant : ∀ host : Host, (∀ attached, host ≠ .object attached) →
      (∀ e' : Endpoint, e'.settle host = e') →
      e.EndsApart header l other r
        ((e.on l r).settle (Step.runAll host body).1, (Step.runAll host body).2)
        ((e.on other s).settle (Step.runAll host body).1, (Step.runAll host body).2) := by
    intro host hhost hsettle
    rw [Step.fst_runAll_of_no_object hbody hhost, hsettle, hsettle]
    exact .resting hrs _
  cases receiver with
  | object | objectAndName => exact hobject
  | objectClass => exact hconstant (.handlerClass false) (by simp) fun _ => rfl
  | nothing => exact hconstant .stranger (by simp [Host.stranger]) fun _ => rfl

/-- What a body gives that runs on the object. -/
theorem spares_of_runBody {body : List Step} (hbody : Step.AllSpare header body)
    {receiver : Receiver} {o : Outcome} (ho : (e.runBody receiver body).2 = .ok o) :
    o.Spares header :=
  Step.spares_of_runAll hbody ho

theorem readMissing_endsApart (hl : l.SparesAlike header other)
    (hrs : s.without header = r.without header) :
    e.EndsApart header l other r (e.on l r).readMissing (e.on other s).readMissing := by
  have hsame : (e.on other s).lineage.attribute? SpecialName.fallback =
      (e.on l r).lineage.attribute? SpecialName.fallback := hl.inherited _ (by decide)
  unfold readMissing
  rw [hsame]
  cases hfallback : (e.on l r).lineage.attribute? SpecialName.fallback with
  | none => exact .resting hrs _
  | some a =>
    have ha : a.Spares header := hl.spares _ _ hfallback
    cases a with
    | builtin b => exact .resting hrs _
    | implied => exact .resting hrs _
    | member m =>
      cases m with
      | property body =>
        exact (runBody_endsApart ha hrs .object).map fun result =>
          (.error (refused result) : Except Fault Found)
      | routine rt =>
        dsimp only
        cases rt.receiver with
        | objectAndName =>
          exact (runBody_endsApart ha hrs .objectAndName).map fun result =>
            result.map Found.computed
        | _ => exact .resting hrs _
      | _ => exact .resting hrs _

/-- What stands in for an attribute that is not there. -/
theorem spares_of_readMissing (hl : e.lineage.Spares header) {found : Found}
    (hfound : e.readMissing.2 = .ok found) : found.Spares header := by
  unfold readMissing at hfound
  split at hfound
  · cases hfound
  · obtain ⟨o, -, rfl⟩ := Record.of_map_eq_ok hfound
    rfl
  · cases hfound
  · next rt hrt =>
    split at hfound
    · obtain ⟨o, ho, rfl⟩ := Record.of_map_eq_ok hfound
      exact spares_of_runBody (hl _ _ hrt) ho
    all_goals cases hfound
  · cases hfound

/-- What is computed, once the body that computes it has run. -/
def readAfter : Endpoint × Except Fault Outcome → Endpoint × Except Fault Found
  | (after, .ok o) => (after, .ok (.computed o))
  | (after, .error .missingAttribute) => after.readMissing
  | (after, .error f) => (after, .error f)

theorem readAfter_endsApart (hl : l.SparesAlike header other)
    {x y : Endpoint × Except Fault Outcome} (h : e.EndsApart header l other r x y) :
    e.EndsApart header l other r (readAfter x) (readAfter y) := by
  refine h.bind readAfter ?_
  intro r' s' result hnext _
  cases result with
  | ok o => exact .resting hnext _
  | error f =>
    cases f with
    | missingAttribute => exact readMissing_endsApart hl hnext
    | _ => exact .resting hnext _

/-- Not every object has something under the name of GET. -/
theorem not_universal_getName : ¬Ancestor.objectNames.contains getName = true := by decide

/-- Reading GET. -/
theorem read_getName_endsApart (hl : l.SparesAlike header other)
    (hrs : s.without header = r.without header) :
    e.EndsApart header l other r ((e.on l r).read getName) ((e.on other s).read getName) := by
  have hsame : (e.on other s).lineage.attribute? getName =
      (e.on l r).lineage.attribute? getName := hl.inherited _ (by decide)
  have hmissing := readMissing_endsApart (e := e) hl hrs
  have hreading : (e.on l r).lineage.attribute? SpecialName.reading = none := hl.reads_plainly
  have hother : (e.on other s).lineage.attribute? SpecialName.reading = none :=
    (hl.inherited _ (by decide)).trans hl.reads_plainly
  rw [read_eq_readPlainly hreading, read_eq_readPlainly hother]
  unfold readPlainly lookUp
  rw [hsame, own?_getName, own?_getName]
  have hown : (e.on other s).attributes = (e.on l r).attributes := rfl
  rw [hown]
  cases hget : (e.on l r).lineage.attribute? getName with
  | none =>
    cases (e.on l r).attributes.get? getName with
    | some m => exact .resting hrs _
    | none =>
      simp only [Option.map_none, if_neg not_universal_getName]
      exact hmissing
  | some a =>
    cases a with
    | builtin b => cases (e.on l r).attributes.get? getName <;> exact .resting hrs _
    | implied => cases (e.on l r).attributes.get? getName <;> exact .resting hrs _
    | member m =>
      cases m with
      | property body =>
        have hbody : Step.AllSpare header body := hl.spares _ _ hget
        exact readAfter_endsApart hl (runBody_endsApart hbody hrs .object)
      | slot =>
        cases (e.on l r).attributes.get? getName with
        | some m => exact .resting hrs _
        | none => exact hmissing
      | _ => cases (e.on l r).attributes.get? getName <;> exact .resting hrs _

theorem spares_of_own?_getName {found : Found} (hfound : e.own? getName = some found) :
    found.Spares header := by
  rw [own?_getName] at hfound
  obtain ⟨m, -, rfl⟩ := Option.map_eq_some_iff.1 hfound
  trivial

theorem spares_of_lookUp_getName (hl : e.lineage.Spares header) {found : Found}
    (hfound : (e.lookUp getName).2 = .ok found) : found.Spares header := by
  unfold lookUp at hfound
  split at hfound
  · next hown =>
    cases hfound
    exact spares_of_own?_getName hown
  · next ha =>
    cases hfound
    exact hl _ _ ha
  · rw [if_neg not_universal_getName] at hfound
    exact spares_of_readMissing hl hfound

/-- What reading GET finds leaves the header alone. -/
theorem spares_of_read_getName (hl : l.SparesAlike header other) {found : Found}
    (hfound : ((e.on l r).read getName).2 = .ok found) : found.Spares header := by
  have hreading : (e.on l r).lineage.attribute? SpecialName.reading = none := hl.reads_plainly
  rw [read_eq_readPlainly hreading] at hfound
  unfold readPlainly at hfound
  split at hfound
  · next body hbody =>
    have hspares : Step.AllSpare header body := hl.spares _ _ hbody
    have hapart : e.EndsApart header l other r ((e.on l r).runBody .object body)
        ((e.on other r).runBody .object body) := runBody_endsApart hspares rfl .object
    obtain ⟨r', -, hafter, -⟩ := hapart
    split at hfound
    · next hends =>
      cases hfound
      exact spares_of_runBody hspares (congrArg Prod.snd hends)
    · next after hends =>
      obtain rfl : after = e.on l r' := (congrArg Prod.fst hends).symm.trans hafter
      exact spares_of_readMissing (e := e.on l r') hl.spares hfound
    · cases hfound
  · split at hfound
    · next hown =>
      cases hfound
      exact spares_of_own?_getName hown
    · exact spares_of_readMissing (e := e.on l r) hl.spares hfound
  · exact spares_of_lookUp_getName (e := e.on l r) hl.spares hfound

/-- A call of a method. -/
theorem callRoutine_endsApart {rt : Routine} (hrt : Step.AllSpare header rt.body)
    (hrs : s.without header = r.without header) :
    e.EndsApart header l other r ((e.on l r).callRoutine rt) ((e.on other s).callRoutine rt) := by
  unfold callRoutine
  cases rt.receiver with
  | objectAndName => exact .resting hrs _
  | object => exact runBody_endsApart hrt hrs .object
  | objectClass => exact runBody_endsApart hrt hrs .objectClass
  | nothing => exact runBody_endsApart hrt hrs .nothing

/-- A call of what leaves the header alone. -/
theorem call_endsApart {found : Found} (hfound : found.Spares header)
    (hrs : s.without header = r.without header) :
    e.EndsApart header l other r ((e.on l r).call found) ((e.on other s).call found) := by
  cases found with
  | inherited a =>
    cases a with
    | member m =>
      cases m with
      | routine rt => exact callRoutine_endsApart hfound hrs
      | _ => exact .resting hrs _
    | _ => exact .resting hrs _
  | own m => exact .resting hrs _
  | computed o =>
    cases o with
    | function body => exact runBody_endsApart hfound hrs .object
    | _ => exact .resting hrs _
  | lent host o =>
    obtain rfl : host = .stranger := hfound
    cases o with
    | function body =>
      -- The function runs on the same stranger on both sides.
      have hcall : ∀ e' : Endpoint, e'.call (.lent .stranger (.function body)) =
          (e', (Step.runAll .stranger body).2) := by
        intro e'
        change (e'.settle (Step.runAll .stranger body).1, (Step.runAll .stranger body).2) = _
        rw [Step.fst_runAll_stranger]
        rfl
      rw [hcall, hcall]
      exact .resting hrs _
    | _ => exact .resting hrs _
  | attached a => exact absurd hfound id
  | universal name => exact absurd hfound id

/-- HEAD once GET has been read, as the endpoint after it and how it ends. -/
def headAfter : Endpoint × Except Fault Found → Endpoint × Except Fault Value
  | (after, .error .missingAttribute) => (after, after.refuseHead.result)
  | (after, .error f) => (after, .error f)
  | (after, .ok found) =>
    if found.isCallable then
      ((after.call found).1, (after.call found).2.map fun _ => emptyBody)
    else (after, after.refuseHead.result)

theorem head_eq (e : Endpoint) : (e.head.endpoint, e.head.result) = headAfter (e.read getName) := by
  have hname : "get".toList = getName := rfl
  unfold head
  rw [hname]
  generalize e.read getName = outcome
  obtain ⟨after, result⟩ := outcome
  cases result with
  | error f => cases f <;> rfl
  | ok found =>
    dsimp only [headAfter]
    split <;> rfl

/-- HEAD. -/
theorem head_endsApart (hl : l.SparesAlike header other)
    (hrs : s.without header = r.without header) :
    e.EndsApart header l other r ((e.on l r).head.endpoint, (e.on l r).head.result)
      ((e.on other s).head.endpoint, (e.on other s).head.result) := by
  rw [head_eq, head_eq]
  refine (read_getName_endsApart hl hrs).bind headAfter ?_
  intro r' s' result hnext hread
  cases result with
  | error f => cases f <;> exact .resting hnext _
  | ok found =>
    dsimp only [headAfter]
    split
    · exact (call_endsApart (spares_of_read_getName hl hread) hnext).map
        fun result => result.map fun _ => emptyBody
    · exact .resting hnext _

/-! ## Methods -/

variable {name : Text} {a : Attribute}

/-- What a run leaves and gives, apart from the header where it gives a response. -/
def answerApart (header : Text) (run : Run Answer) : Endpoint × Except Fault Answer :=
  (run.endpoint, run.result.map (Answer.without header))

/-- Reading a method gives what the object itself has in its place, or the method. -/
theorem read_of_routine (hreading : e.lineage.attribute? SpecialName.reading = none)
    (ha : e.lineage.attribute? name = some a) (hroutine : a.routine?.isSome = true) :
    e.read name = (e, .ok ((e.own? name).getD (.inherited a))) := by
  have hlooked : e.lookUp name = (e, .ok ((e.own? name).getD (.inherited a))) := by
    unfold lookUp
    rw [ha]
    cases e.own? name <;> rfl
  rw [read_eq_readPlainly hreading]
  unfold readPlainly
  rw [ha, hlooked]
  cases a with
  | member m =>
    cases m with
    | property body => cases hroutine
    | slot => cases hroutine
    | _ => rfl
  | _ => rfl

/-- What the object itself has in the place of a method is what is attached to it, or it does not
depend on that. -/
theorem own?_of_routine (ha : e.lineage.attribute? name = some a)
    (hroutine : a.routine?.isSome = true) :
    e.own? name =
      match e.attributes.get? name with
      | some m => some (.own m)
      | none =>
        if name == Attached.name then
          if e.response.fault?.isSome then none else some (.attached e.response)
        else if partNames.contains name && e.held.contains name then some (.own (.value .null))
        else none := by
  have hplace : hasPlace e.lineage name = false := by
    unfold hasPlace
    rw [ha]
    cases a with
    | member m => cases m <;> first | rfl | cases hroutine
    | _ => rfl
  unfold own?
  cases e.attributes.get? name with
  | some m => rfl
  | none => simp only [has, hplace, Bool.false_or]

/-- Calling what is no operation of every endpoint. -/
theorem callMethod_of_read {after : Endpoint} {found : Found}
    (hread : e.read name = (after, .ok found))
    (hfound : ∀ b, found ≠ .inherited (.builtin b)) :
    e.callMethod name = ⟨(after.call found).1, (after.call found).2.map .ofOutcome, []⟩ := by
  unfold callMethod
  rw [hread]
  cases found with
  | inherited a =>
    cases a with
    | builtin b => exact absurd rfl (hfound b)
    | _ => rfl
  | _ => rfl

/-- What calling an operation of every endpoint other than OPTIONS leaves and gives, apart from the
header. -/
def builtinAnswer (e : Endpoint) (header : Text) : Builtin → Endpoint × Except Fault Answer
  | .head => (e.head.endpoint, (e.head.result.map Answer.value).map (Answer.without header))
  | .currentResponse => (e, (Answer.ofAttached e.response).map (Answer.without header))
  | .create | .documentVerb | .options => (e, .error .notCallable)

theorem answerApart_of_builtin {b : Builtin} (hb : b ≠ .options)
    (hread : e.read name = (e, .ok (.inherited (.builtin b)))) :
    answerApart header (e.callMethod name) = e.builtinAnswer header b := by
  unfold callMethod
  rw [hread]
  cases b with
  | options => exact absurd rfl hb
  | _ => rfl

theorem builtinAnswer_endsApart (hl : l.SparesAlike header other)
    (hrs : s.without header = r.without header) (b : Builtin) :
    e.EndsApart header l other r ((e.on l r).builtinAnswer header b)
      ((e.on other s).builtinAnswer header b) := by
  cases b with
  | head =>
    exact (head_endsApart hl hrs).map fun result =>
      (result.map Answer.value).map (Answer.without header)
  | currentResponse =>
    -- Both give their responses, which are the same apart from the header.
    have hgiven : ∀ (m : Lineage) (t : Response), (e.on m t).builtinAnswer header .currentResponse =
        (e.on m t, .ok (.attached (.response (t.without header)))) := fun _ _ => rfl
    rw [hgiven, hgiven, hrs]
    exact .resting hrs _
  | _ => exact .resting hrs _

/-- A call of the same on both, which is not OPTIONS. -/
theorem answerApart_endsApart {found : Found} (hl : l.SparesAlike header other)
    (hrs : s.without header = r.without header) (hfound : found.Spares header)
    (hoptions : found ≠ .inherited (.builtin .options))
    (hread : (e.on l r).read name = (e.on l r, .ok found))
    (hother : (e.on other s).read name = (e.on other s, .ok found)) :
    e.EndsApart header l other r (answerApart header ((e.on l r).callMethod name))
      (answerApart header ((e.on other s).callMethod name)) := by
  by_cases hbuiltin : ∃ b, found = .inherited (.builtin b)
  · obtain ⟨b, rfl⟩ := hbuiltin
    have hb : b ≠ .options := by
      rintro rfl
      exact hoptions rfl
    rw [answerApart_of_builtin hb hread, answerApart_of_builtin hb hother]
    exact builtinAnswer_endsApart hl hrs b
  · rw [not_exists] at hbuiltin
    rw [callMethod_of_read hread hbuiltin, callMethod_of_read hother hbuiltin]
    exact (call_endsApart hfound hrs).map fun result =>
      (result.map Answer.ofOutcome).map (Answer.without header)

/-- A response in the place of a method cannot be called, whatever it has in it. -/
theorem answerApart_of_attached
    (hread : (e.on l r).read name = (e.on l r, .ok (.attached (.response r)))) :
    answerApart header ((e.on l r).callMethod name) = (e.on l r, .error .notCallable) := by
  rw [callMethod_of_read hread (by simp)]
  rfl

/-- Under the name of a method both have the same, which leaves the header alone, or what is
attached to them. -/
theorem read_method (hl : l.SparesAlike header other) (ha : l.attribute? name = some a)
    (hsame : other.attribute? name = some a) (hroutine : a.routine?.isSome = true) :
    (∃ found : Found, found.Spares header ∧
      (∀ b, found = .inherited (.builtin b) → a = .builtin b) ∧
      (e.on l r).read name = (e.on l r, .ok found) ∧
      (e.on other s).read name = (e.on other s, .ok found)) ∨
    (e.on l r).read name = (e.on l r, .ok (.attached (.response r))) ∧
      (e.on other s).read name = (e.on other s, .ok (.attached (.response s))) := by
  have hfirst : (e.on l r).lineage.attribute? name = some a := ha
  have hsecond : (e.on other s).lineage.attribute? name = some a := hsame
  have hown : (e.on other s).attributes = (e.on l r).attributes := rfl
  have hheld : (e.on other s).held = (e.on l r).held := rfl
  have hreading : (e.on l r).lineage.attribute? SpecialName.reading = none := hl.reads_plainly
  have hother : (e.on other s).lineage.attribute? SpecialName.reading = none :=
    (hl.inherited _ (by decide)).trans hl.reads_plainly
  rw [read_of_routine hreading hfirst hroutine, read_of_routine hother hsecond hroutine,
    own?_of_routine hfirst hroutine, own?_of_routine hsecond hroutine, hown, hheld]
  cases (e.on l r).attributes.get? name with
  | some m => exact .inl ⟨.own m, trivial, by simp, rfl, rfl⟩
  | none =>
    dsimp only
    split
    · exact .inr ⟨rfl, rfl⟩
    · split
      · exact .inl ⟨.own (.value .null), trivial, by simp, rfl, rfl⟩
      · exact .inl ⟨.inherited a, hl.spares _ _ ha, by simp, rfl, rfl⟩

/-- A call of a method that is not OPTIONS. -/
theorem callMethod_endsApart (hl : l.SparesAlike header other)
    (hrs : s.without header = r.without header) (hroutine : (l.routine? name).isSome = true)
    (hsame : other.attribute? name = l.attribute? name) (hname : name ≠ Builtin.options.name) :
    e.EndsApart header l other r (answerApart header ((e.on l r).callMethod name))
      (answerApart header ((e.on other s).callMethod name)) := by
  obtain ⟨routine, hmethod⟩ := Option.isSome_iff_exists.1 hroutine
  obtain ⟨a, ha, hmethod⟩ := Option.bind_eq_some_iff.1 hmethod
  have hroutine : a.routine?.isSome = true := Option.isSome_iff_exists.2 ⟨routine, hmethod⟩
  rcases read_method (e := e) (r := r) (s := s) hl ha (hsame.trans ha) hroutine with
    ⟨found, hfound, hbuiltin, hread, hother⟩ | ⟨hread, hother⟩
  · refine answerApart_endsApart hl hrs hfound ?_ hread hother
    rintro rfl
    rw [hbuiltin .options rfl] at ha
    exact hname (Lineage.name_of_attribute?_builtin ha)
  · rw [answerApart_of_attached hread, answerApart_of_attached hother]
    exact .resting hrs _

end Endpoint
end VerbDoc
