import VerbDoc.Endpoint.Call
import VerbDoc.Proofs.Handler.Bodies

/-!
# HEAD that is refused

HEAD is refused where reading GET gives nothing that can be called. Whether it does can be said by
what the class and the object have under the name, and under that of the fallback, unless the class
reads in its own way. Main statements:
HEAD is refused exactly there, and no header of a response makes a difference to it.
-/
namespace VerbDoc.Endpoint

def getName : Text := "get".toList

/-- HEAD is refused for lack of something that can be called. -/
def RefusesHead (e : Endpoint) : Prop :=
  ∃ after : Endpoint, e.callMethod Builtin.head.name = after.refuseHead.map .value

/-- Nothing that can be called comes of a call: it lacks an attribute, or gives no function. -/
def LacksFunction (result : Except Fault Outcome) : Prop :=
  result = .error .missingAttribute ∨ ∃ o, result = .ok o ∧ o.isCallable = false

/-- Nothing that can be called comes of asking for an attribute that is not there, on an object that
the host stands for. A property in the place of the fallback is not enough, as nothing that it gives
could be asked. -/
def LacksFallback (e : Endpoint) (host : Host) : Prop :=
  match e.lineage.attribute? SpecialName.fallback with
  | none => True
  | some (.member .slot) =>
    ∀ m, e.attributes.get? SpecialName.fallback = some m → LacksFunction m.callWithText
  | some (.member (.property body)) => (Step.runAll host body).2 = .error .missingAttribute
  | some (.member (.routine r)) =>
    r.receiver = .objectAndName ∧ LacksFunction (Step.runAll host r.body).2
  | some _ => False

/-- Neither the class nor the object has anything under the name of GET that can be called. A
property gives something that cannot, or lacks an attribute and leaves it to the fallback. -/
def LacksGet (e : Endpoint) : Prop :=
  match e.lineage.attribute? getName, e.attributes.get? getName with
  | some (.member (.property body)), _ =>
    (∃ o, (Step.runAll (.object e.response) body).2 = .ok o ∧ o.isCallable = false) ∨
      (Step.runAll (.object e.response) body).2 = .error .missingAttribute ∧
        e.LacksFallback (Step.runAll (.object e.response) body).1
  | some (.member .slot), none | none, none => e.LacksFallback (.object e.response)
  | _, some m => m.isCallableAlone = false
  | some a, none => (Found.inherited a).isCallable = false

/-! ## What reading gives -/

/-- What has been read cannot be called. -/
def GivesNothing (outcome : Except Fault Found) : Prop :=
  outcome = .error .missingAttribute ∨ ∃ found, outcome = .ok found ∧ found.isCallable = false

theorem givesNothing_ok_iff (found : Found) :
    GivesNothing (.ok found) ↔ found.isCallable = false := by
  simp [GivesNothing]

theorem givesNothing_error_iff (f : Fault) :
    GivesNothing (.error f) ↔ f = .missingAttribute := by
  simp [GivesNothing]

/-- What a call gives is found as it is. -/
theorem givesNothing_map_iff {result : Except Fault Outcome} {toFound : Outcome → Found}
    (hfound : ∀ o, (toFound o).isCallable = o.isCallable) :
    GivesNothing (result.map toFound) ↔ LacksFunction result := by
  cases result with
  | error f => simp [Except.map, GivesNothing, LacksFunction]
  | ok o => simp [Except.map, GivesNothing, LacksFunction, hfound]

theorem givesNothing_readMissing_iff (e : Endpoint) :
    GivesNothing e.readMissing.2 ↔ e.LacksFallback (.object e.response) := by
  unfold readMissing LacksFallback
  cases e.lineage.attribute? SpecialName.fallback with
  | none => exact iff_of_true ((givesNothing_error_iff _).2 rfl) trivial
  | some a =>
    cases a with
    | builtin b => simp [givesNothing_error_iff]
    | implied => simp [givesNothing_error_iff]
    | member m =>
      cases m with
      | slot =>
        -- What the object has in the place is given the name.
        dsimp only
        cases e.attributes.get? SpecialName.fallback with
        | none => simp [Except.map, givesNothing_error_iff]
        | some own =>
          simp only [Option.elim_some, Option.some.injEq, forall_eq']
          exact givesNothing_map_iff fun _ => rfl
      | property body =>
        dsimp only [runBody, Receiver.host]
        rw [givesNothing_error_iff]
        cases (Step.runAll (.object e.response) body).2 with
        | error f => simp [refused]
        | ok o => simp [refused]
      | routine r =>
        dsimp only
        cases r.receiver with
        | objectAndName =>
          simp only [true_and]
          exact givesNothing_map_iff fun _ => rfl
        | _ => simp [givesNothing_error_iff]
      | _ => simp [givesNothing_error_iff]

/-- An object after a body has run on it, through what the body leaves attached. -/
theorem settle_object (e : Endpoint) (attached : Attached) :
    (e.settle (.object attached)).lineage = e.lineage ∧
      (e.settle (.object attached)).attributes = e.attributes ∧
      (e.settle (.object attached)).response = attached := by
  cases attached with
  | absent =>
    have hheld : (e.hold Attached.name).lineage = e.lineage ∧
        (e.hold Attached.name).attributes = e.attributes := by
      unfold hold
      split <;> exact ⟨rfl, rfl⟩
    exact ⟨hheld.1, hheld.2, rfl⟩
  | _ => exact ⟨rfl, rfl, rfl⟩

/-- A property that comes to lack an attribute leaves the object to the fallback. -/
theorem givesNothing_readMissing_settle_iff (e : Endpoint) (body : List Step) :
    GivesNothing (e.settle (Step.runAll (.object e.response) body).1).readMissing.2 ↔
      e.LacksFallback (Step.runAll (.object e.response) body).1 := by
  obtain ⟨left, -, -, hleft, -, -⟩ := Step.runAll_alike (.same e.response) body
  obtain ⟨hlineage, hattributes, hresponse⟩ := e.settle_object left
  rw [hleft, givesNothing_readMissing_iff, hresponse, LacksFallback, LacksFallback, hlineage,
    hattributes]

theorem own?_getName (e : Endpoint) : e.own? getName = (e.attributes.get? getName).map .own := by
  have hpart : (getName == Attached.name || partNames.contains getName) = false := by decide
  rw [Bool.or_eq_false_iff] at hpart
  unfold own?
  cases e.attributes.get? getName with
  | none =>
    simp only [hpart, Bool.false_and]
    rfl
  | some m => rfl

/-- Where the class has no way of reading of its own, reading GET gives nothing that can be called
exactly where GET is lacking. -/
theorem givesNothing_read_iff {e : Endpoint}
    (hreading : e.lineage.attribute? SpecialName.reading = none) :
    GivesNothing (e.read getName).2 ↔ e.LacksGet := by
  have hmissing := e.givesNothing_readMissing_iff
  have huniversal : getName ∉ Ancestor.objectNames := by decide
  rw [read_eq_readPlainly hreading]
  unfold readPlainly lookUp LacksGet
  rw [e.own?_getName]
  cases e.lineage.attribute? getName with
  | none =>
    cases e.attributes.get? getName with
    | none => simpa [huniversal] using hmissing
    | some m => exact givesNothing_ok_iff _
  | some a =>
    cases a with
    | builtin b => cases e.attributes.get? getName <;> exact givesNothing_ok_iff _
    | implied => cases e.attributes.get? getName <;> exact givesNothing_ok_iff _
    | member m =>
      cases m with
      | property body =>
        have hsettled := e.givesNothing_readMissing_settle_iff body
        dsimp only [runBody, Receiver.host]
        cases hends : (Step.runAll (.object e.response) body).2 with
        | ok o => simp [givesNothing_ok_iff, Found.isCallable]
        | error f =>
          cases f with
          | missingAttribute => simpa using hsettled
          | _ => simp [givesNothing_error_iff]
      | slot =>
        cases e.attributes.get? getName with
        | none => exact hmissing
        | some m => exact givesNothing_ok_iff _
      | _ => cases e.attributes.get? getName <;> exact givesNothing_ok_iff _

variable {e : Endpoint}

theorem callMethod_head (hreading : e.lineage.attribute? SpecialName.reading = none)
    (hclass : e.lineage.attribute? Builtin.head.name = some (.builtin .head))
    (hown : e.attributes.get? Builtin.head.name = none) :
    e.callMethod Builtin.head.name = e.head.map .value := by
  unfold callMethod
  rw [read_builtin hreading hclass hown]

/-- HEAD is refused where reading GET gives nothing that can be called. -/
theorem refusesHead_iff_givesNothing
    (hreading : e.lineage.attribute? SpecialName.reading = none)
    (hclass : e.lineage.attribute? Builtin.head.name = some (.builtin .head))
    (hown : e.attributes.get? Builtin.head.name = none) :
    e.RefusesHead ↔ GivesNothing (e.read getName).2 := by
  rw [RefusesHead, callMethod_head hreading hclass hown]
  -- Only a refusal for lack of GET is logged as one.
  have hlog : ∀ (after : Endpoint) (result : Except Fault Value),
      ¬∃ other : Endpoint, (⟨after, result, []⟩ : Run Value).map Answer.value =
        other.refuseHead.map .value := by
    rintro after result ⟨other, heq⟩
    cases congrArg Run.log heq
  have hname : "get".toList = getName := rfl
  unfold head
  rw [hname]
  generalize e.read getName = outcome
  obtain ⟨after, result⟩ := outcome
  cases result with
  | error f =>
    rw [givesNothing_error_iff]
    cases f with
    | missingAttribute => exact iff_of_true ⟨after, rfl⟩ rfl
    | _ => exact iff_of_false (hlog _ _) (by simp)
  | ok found =>
    rw [givesNothing_ok_iff]
    dsimp only
    cases hcallable : found.isCallable with
    | true => exact iff_of_false (hlog _ _) (by simp)
    | false => exact iff_of_true ⟨after, rfl⟩ rfl

/-- HEAD is refused exactly where GET is lacking. -/
theorem refusesHead_iff (hreading : e.lineage.attribute? SpecialName.reading = none)
    (hclass : e.lineage.attribute? Builtin.head.name = some (.builtin .head))
    (hown : e.attributes.get? Builtin.head.name = none) : e.RefusesHead ↔ e.LacksGet := by
  rw [refusesHead_iff_givesNothing hreading hclass hown, givesNothing_read_iff hreading]

/-- A method of the class is a GET. -/
theorem not_lacksGet_of_routine {r : Routine}
    (hget : e.lineage.attribute? getName = some (.member (.routine r)))
    (hown : e.attributes.get? getName = none) : ¬e.LacksGet := by
  unfold LacksGet
  rw [hget, hown]
  exact Bool.noConfusion

/-- Where nothing goes by the name and there is no fallback, GET is lacking. -/
theorem lacksGet_of_undefined (hget : e.lineage.attribute? getName = none)
    (hown : e.attributes.get? getName = none)
    (hfallback : e.lineage.attribute? SpecialName.fallback = none) : e.LacksGet := by
  unfold LacksGet
  rw [hget, hown]
  dsimp only [LacksFallback]
  rw [hfallback]
  trivial

/-! ## Another response -/

variable {other : Endpoint}

theorem lacksFallback_congr {a b : Attached} (hab : a.Alike b)
    (hinherited : other.lineage.attribute? SpecialName.fallback =
      e.lineage.attribute? SpecialName.fallback)
    (hown : other.attributes = e.attributes) :
    other.LacksFallback (.object b) ↔ e.LacksFallback (.object a) := by
  unfold LacksFallback
  rw [hinherited, hown]
  split
  · exact Iff.rfl
  · exact Iff.rfl
  · next body _ =>
    obtain ⟨-, -, -, -, -, hends⟩ := Step.runAll_alike hab body
    rw [hends]
  · next r _ =>
    obtain ⟨-, -, -, -, -, hends⟩ := Step.runAll_alike hab r.body
    rw [hends]
  · exact Iff.rfl

/-- What a response has in it makes no difference to whether GET is lacking. -/
theorem lacksGet_congr (hresponse : e.response.Alike other.response)
    (hget : other.lineage.attribute? getName = e.lineage.attribute? getName)
    (hfallback : other.lineage.attribute? SpecialName.fallback =
      e.lineage.attribute? SpecialName.fallback)
    (hown : other.attributes = e.attributes) : other.LacksGet ↔ e.LacksGet := by
  unfold LacksGet
  rw [hget, hown]
  split
  · next body _ =>
    obtain ⟨a, b, hab, ha, hb, hends⟩ := Step.runAll_alike hresponse body
    rw [ha, hb, hends, lacksFallback_congr hab hfallback hown]
  · exact lacksFallback_congr hresponse hfallback hown
  · exact lacksFallback_congr hresponse hfallback hown
  · exact Iff.rfl
  · exact Iff.rfl

end VerbDoc.Endpoint
