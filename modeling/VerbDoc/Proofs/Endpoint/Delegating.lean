import VerbDoc.Proofs.Endpoint.Describing
import VerbDoc.Proofs.Endpoint.Sparing
import VerbDoc.Proofs.Handler.Resolution

/-!
# HEAD as GET without its body

HEAD runs whatever goes by the name of GET, so that what it leaves and how it fails are those of a
call of GET. Most of the time the nearest class that defines GET says what that is, but an attribute
of the object itself comes first, and where there is nothing a class may have a fallback. Main
statements: HEAD leaves the endpoint as a call of GET does, gives an empty body or the same fault,
and keeps what a body did before it failed; it is refused where GET is lacking or cannot be called,
and then no more is done than was needed to find that out. What the classes say of GET is not enough
to tell.
-/
namespace VerbDoc

namespace Lineage

variable {l : Lineage} {name : Text} {a : Attribute}

/-- The nearest class that defines a name has `a` under it. -/
def Resolves (l : Lineage) (name : Text) (a : Attribute) : Prop :=
  ∃ nearer c farther, l = nearer ++ c :: farther ∧
    (∀ other ∈ nearer, other.defines name = false) ∧ OrderedMap.find name c.attributes = some a

theorem resolves_iff : l.Resolves name a ↔ l.attribute? name = some a := by
  rw [attribute?, List.findSome?_eq_some_iff]
  simp only [Resolves, Ancestor.defines, Option.isSome_eq_false_iff, Option.isNone_iff_eq_none]
  constructor
  · rintro ⟨nearer, c, farther, hl, hnearer, hc⟩
    exact ⟨nearer, c, farther, hl, hc, hnearer⟩
  · rintro ⟨nearer, c, farther, hl, hc, hnearer⟩
    exact ⟨nearer, c, farther, hl, hnearer, hc⟩

theorem attribute?_eq_none (h : ∀ a, ¬l.Resolves name a) : l.attribute? name = none := by
  rw [Option.eq_none_iff_forall_ne_some]
  exact fun a ha => h a (resolves_iff.2 ha)

theorem Resolves.unique {b : Attribute} (ha : l.Resolves name a) (hb : l.Resolves name b) :
    a = b :=
  Option.some.inj ((resolves_iff.1 ha).symm.trans (resolves_iff.1 hb))

end Lineage

/-- Reading an attribute of a class that is plain gives just that attribute: it is no property, and
no place for an attribute of objects. -/
def Attribute.IsPlain : Attribute → Prop
  | .member (.property _) | .member .slot => False
  | .member _ | .builtin _ | .implied => True

namespace Step

/-- The host after steps none of which ends a body. -/
def pass? (host : Host) : List Step → Option Host
  | [] => some host
  | step :: rest =>
    match step.run host with
    | (after, none) => pass? after rest
    | (_, some _) => none

theorem runAll_append_of_pass? {host after : Host} {first : List Step}
    (h : pass? host first = some after) (rest : List Step) :
    runAll host (first ++ rest) = runAll after rest := by
  induction first generalizing host with
  | nil =>
    obtain rfl := Option.some.inj h
    rfl
  | cons step more ih =>
    rw [pass?] at h
    rw [List.cons_append, runAll]
    cases hstep : step.run host with
    | mk next ends =>
      rw [hstep] at h
      cases ends with
      | none => exact ih h
      | some result => cases h

/-- A body that fails on the way keeps what it did before. -/
theorem runAll_of_fails {host after : Host} {first : List Step} {step : Step} {f : Fault}
    (h : pass? host first = some after) (hstep : (step.run after).2 = some (.error f))
    (rest : List Step) : runAll host (first ++ step :: rest) = (after, .error f) := by
  have hrun : step.run after = (after, some (.error f)) :=
    Prod.ext (run_fst_of_error hstep) hstep
  rw [runAll_append_of_pass? h, runAll, hrun]

end Step

namespace Endpoint

variable {e after : Endpoint}

/-- Reading HEAD gives the one that every endpoint has. -/
def InheritsHead (e : Endpoint) : Prop :=
  e.read Builtin.head.name = (e, .ok (.inherited (.builtin .head)))

/-- What is left and what comes of it when the fallback is asked for an attribute. -/
inductive FallsBack (e : Endpoint) : Endpoint × Except Fault Found → Prop where
  | without (hclass : ∀ a, ¬e.lineage.Resolves SpecialName.fallback a) :
    FallsBack e (e, .error .missingAttribute)
  /-- A method that takes the name. -/
  | asked {r : Routine} (hclass : e.lineage.Resolves SpecialName.fallback (.member (.routine r)))
    (hreceiver : r.receiver = .objectAndName) :
    FallsBack e ((e.runBody .objectAndName r.body).1,
      (e.runBody .objectAndName r.body).2.map .computed)
  /-- A property is read, but what it gives has no use for the name. -/
  | property {body : List Step}
    (hclass : e.lineage.Resolves SpecialName.fallback (.member (.property body))) :
    FallsBack e ((e.runBody .object body).1, .error (refused (e.runBody .object body).2))
  | placed {m : Member} (hclass : e.lineage.Resolves SpecialName.fallback (.member .slot))
    (hown : e.attributes.get? SpecialName.fallback = some m) :
    FallsBack e (e, m.callWithText.map (.lent .stranger))
  | unplaced (hclass : e.lineage.Resolves SpecialName.fallback (.member .slot))
    (hown : e.attributes.get? SpecialName.fallback = none) :
    FallsBack e (e, .error .missingAttribute)
  /-- Anything else has no use for the name. -/
  | unfit {a : Attribute} (hclass : e.lineage.Resolves SpecialName.fallback a) (hplain : a.IsPlain)
    (hunfit : ∀ r, a = .member (.routine r) → r.receiver ≠ .objectAndName) :
    FallsBack e (e, .error .notCallable)

/-- What is left and what comes of it when an object is asked for its GET. An attribute of the
object itself gives way to a property of the class alone, and only what is not there is left to the
fallback. -/
inductive FindsGet (e : Endpoint) : Endpoint × Except Fault Found → Prop where
  | own {m : Member} (hown : e.attributes.get? getName = some m)
    (hclass : ∀ body, ¬e.lineage.Resolves getName (.member (.property body))) :
    FindsGet e (e, .ok (.own m))
  | inherited {a : Attribute} (hown : e.attributes.get? getName = none)
    (hclass : e.lineage.Resolves getName a) (hplain : a.IsPlain) :
    FindsGet e (e, .ok (.inherited a))
  | computed {body : List Step} {o : Outcome}
    (hclass : e.lineage.Resolves getName (.member (.property body)))
    (hends : (e.runBody .object body).2 = .ok o) :
    FindsGet e ((e.runBody .object body).1, .ok (.computed o))
  | failing {body : List Step} {f : Fault}
    (hclass : e.lineage.Resolves getName (.member (.property body)))
    (hends : (e.runBody .object body).2 = .error f) (hf : f ≠ .missingAttribute) :
    FindsGet e ((e.runBody .object body).1, .error f)
  | lacking {body : List Step} {x : Endpoint × Except Fault Found}
    (hclass : e.lineage.Resolves getName (.member (.property body)))
    (hends : (e.runBody .object body).2 = .error .missingAttribute)
    (hfallback : (e.runBody .object body).1.FallsBack x) : FindsGet e x
  /-- Nothing goes by the name, but perhaps an empty place. -/
  | absent {x : Endpoint × Except Fault Found} (hown : e.attributes.get? getName = none)
    (hclass : ∀ a, e.lineage.Resolves getName a → a = .member .slot)
    (hfallback : e.FallsBack x) : FindsGet e x

/-- The fault of a HEAD that is refused: it names the method, and so do its details. -/
def headRefusal : Fault :=
  .methodNotAllowed (.text "HEAD".toList)
    { message := .text "Method not allowed".toList
      component := .text "endpoint".toList
      details := .ofList [(.text "method".toList, .text "HEAD".toList)] }

/-! ## What goes by the name of GET -/

theorem fallsBack_readMissing (e : Endpoint) : e.FallsBack e.readMissing := by
  unfold readMissing
  cases hfallback : e.lineage.attribute? SpecialName.fallback with
  | none =>
    refine .without fun a ha => ?_
    cases hfallback.symm.trans (Lineage.resolves_iff.1 ha)
  | some a =>
    have hclass := Lineage.resolves_iff.2 hfallback
    cases a with
    | builtin b => exact .unfit hclass trivial (by simp)
    | implied => exact .unfit hclass trivial (by simp)
    | member m =>
      cases m with
      | property body => exact .property hclass
      | slot =>
        dsimp only
        cases hown : e.attributes.get? SpecialName.fallback with
        | none => exact .unplaced hclass hown
        | some m => exact .placed hclass hown
      | routine r =>
        dsimp only
        cases hreceiver : r.receiver with
        | objectAndName => exact .asked hclass hreceiver
        | _ => exact .unfit hclass trivial (by rintro r' ⟨⟩; simp [hreceiver])
      | _ => exact .unfit hclass trivial (by simp)

/-- Reading anything plain gives it, unless the object has something of its own. -/
theorem readPlainly_of_isPlain {a : Attribute} (hclass : e.lineage.Resolves getName a)
    (hplain : a.IsPlain) :
    e.readPlainly getName =
      (e, .ok (((e.attributes.get? getName).map Found.own).getD (.inherited a))) := by
  unfold readPlainly lookUp
  rw [e.own?_getName, Lineage.resolves_iff.1 hclass]
  cases a with
  | member m =>
    cases m with
    | property _ | slot => exact absurd hplain id
    | _ => cases e.attributes.get? getName <;> rfl
  | _ => cases e.attributes.get? getName <;> rfl

theorem findsGet_of_isPlain {a : Attribute} (hclass : e.lineage.Resolves getName a)
    (hplain : a.IsPlain) : e.FindsGet (e.readPlainly getName) := by
  rw [readPlainly_of_isPlain hclass hplain]
  cases hown : e.attributes.get? getName with
  | none => exact .inherited hown hclass hplain
  | some m =>
    refine .own hown fun body hbody => ?_
    obtain rfl := hclass.unique hbody
    exact hplain

theorem findsGet_of_property {body : List Step}
    (hclass : e.lineage.Resolves getName (.member (.property body))) :
    e.FindsGet (e.readPlainly getName) := by
  unfold readPlainly
  rw [Lineage.resolves_iff.1 hclass]
  dsimp only
  cases hends : e.runBody .object body with
  | mk after result =>
    obtain rfl : (e.runBody .object body).1 = after := congrArg Prod.fst hends
    have hresult : (e.runBody .object body).2 = result := congrArg Prod.snd hends
    cases result with
    | ok o => exact .computed hclass hresult
    | error f =>
      by_cases hf : f = .missingAttribute
      · subst hf
        exact .lacking hclass hresult (fallsBack_readMissing _)
      · cases f with
        | missingAttribute => exact absurd rfl hf
        | _ => exact .failing hclass hresult hf

/-- A class reads attributes in the common way if it has no way of its own. -/
theorem findsGet_read (hreading : e.lineage.attribute? SpecialName.reading = none) :
    e.FindsGet (e.read getName) := by
  have hmissing := e.fallsBack_readMissing
  rw [read_eq_readPlainly hreading]
  cases hget : e.lineage.attribute? getName with
  | none =>
    have hnone : ∀ a, ¬e.lineage.Resolves getName a := by
      intro a ha
      cases hget.symm.trans (Lineage.resolves_iff.1 ha)
    unfold readPlainly lookUp
    rw [e.own?_getName, hget]
    cases hown : e.attributes.get? getName with
    | some m => exact .own hown fun body => hnone _
    | none =>
      simp only [Option.map_none, if_neg not_universal_getName]
      exact .absent hown (fun a ha => absurd ha (hnone a)) hmissing
  | some a =>
    have hclass := Lineage.resolves_iff.2 hget
    cases a with
    | member m =>
      cases m with
      | property body => exact findsGet_of_property hclass
      | slot =>
        unfold readPlainly
        rw [e.own?_getName, hget]
        cases hown : e.attributes.get? getName with
        | none => exact .absent hown (fun _ ha => ha.unique hclass) hmissing
        | some m =>
          refine .own hown fun body hbody => ?_
          cases hclass.unique hbody
      | _ => exact findsGet_of_isPlain hclass trivial
    | _ => exact findsGet_of_isPlain hclass trivial

/-- There is only one way for each fallback. -/
theorem FallsBack.eq_readMissing {x : Endpoint × Except Fault Found} (h : e.FallsBack x) :
    x = e.readMissing := by
  unfold readMissing
  cases h with
  | without hclass => rw [Lineage.attribute?_eq_none hclass]
  | asked hclass hreceiver =>
    rw [Lineage.resolves_iff.1 hclass]
    dsimp only
    rw [hreceiver]
  | property hclass => rw [Lineage.resolves_iff.1 hclass]
  | placed hclass hown =>
    rw [Lineage.resolves_iff.1 hclass, hown]
    rfl
  | unplaced hclass hown =>
    rw [Lineage.resolves_iff.1 hclass, hown]
    rfl
  | @unfit a hclass hplain hunfit =>
    rw [Lineage.resolves_iff.1 hclass]
    cases a with
    | member m =>
      cases m with
      | property body => exact absurd hplain id
      | slot => exact absurd hplain id
      | routine r =>
        dsimp only
        have hreceiver := hunfit r rfl
        cases hr : r.receiver with
        | objectAndName => exact absurd hr hreceiver
        | _ => rfl
      | _ => rfl
    | _ => rfl

/-- What goes by the name of GET is what reading it gives. -/
theorem FindsGet.eq_read {x : Endpoint × Except Fault Found} (h : e.FindsGet x)
    (hreading : e.lineage.attribute? SpecialName.reading = none) : x = e.read getName := by
  rw [read_eq_readPlainly hreading]
  cases h with
  | inherited hown hclass hplain =>
    rw [readPlainly_of_isPlain hclass hplain, hown]
    rfl
  | own hown hclass =>
    unfold readPlainly lookUp
    rw [e.own?_getName, hown]
    split
    · next body hbody => exact absurd (Lineage.resolves_iff.2 hbody) (hclass body)
    · rfl
    · rfl
  | @computed body o hclass hends =>
    unfold readPlainly
    rw [Lineage.resolves_iff.1 hclass]
    dsimp only
    rw [← Prod.eta (e.runBody .object body), hends]
  | @failing body f hclass hends hf =>
    unfold readPlainly
    rw [Lineage.resolves_iff.1 hclass]
    dsimp only
    rw [← Prod.eta (e.runBody .object body), hends]
    cases f with
    | missingAttribute => exact absurd rfl hf
    | _ => rfl
  | @lacking body _ hclass hends hfallback =>
    unfold readPlainly
    rw [Lineage.resolves_iff.1 hclass, hfallback.eq_readMissing]
    dsimp only
    rw [← Prod.eta (e.runBody .object body), hends]
  | absent hown hclass hfallback =>
    unfold readPlainly lookUp
    rw [e.own?_getName, hown, hfallback.eq_readMissing]
    cases hget : e.lineage.attribute? getName with
    | none => simp only [Option.map_none, if_neg not_universal_getName]
    | some a =>
      obtain rfl := hclass a (Lineage.resolves_iff.2 hget)
      rfl

/-- What every endpoint has goes by other names. -/
theorem FindsGet.ne_builtin {found : Found} (h : e.FindsGet (after, .ok found))
    (b : Builtin) : found ≠ .inherited (.builtin b) := by
  rintro rfl
  have hnone : ∀ e' : Endpoint, ¬e'.FallsBack (after, .ok (.inherited (.builtin b))) := by
    intro e' hfallback
    generalize hx : (after, Except.ok (Found.inherited (.builtin b))) = x at hfallback
    cases hfallback with
    | asked =>
      obtain ⟨o, -, ho⟩ := Record.of_map_eq_ok (congrArg Prod.snd hx).symm
      cases ho
    | placed =>
      obtain ⟨o, -, ho⟩ := Record.of_map_eq_ok (congrArg Prod.snd hx).symm
      cases ho
    | _ => cases hx
  cases h with
  | inherited hown hclass hplain =>
    have hname := Lineage.name_of_attribute?_builtin (Lineage.resolves_iff.1 hclass)
    revert hname
    cases b <;> decide
  | lacking hclass hends hfallback => exact hnone _ hfallback
  | absent hown hclass hfallback => exact hnone _ hfallback

/-! ## HEAD -/

theorem asked?_ne_inherited {special : Text} (a : Attribute) :
    e.asked? special ≠ some (.ok (.inherited a)) := by
  have hlent : ∀ (host : Host) (given : Except Fault Outcome),
      given.map (Found.lent host) ≠ .ok (.inherited a) := by
    intro host given hgiven
    obtain ⟨o, -, ho⟩ := Record.of_map_eq_ok hgiven
    cases ho
  unfold asked?
  split
  · exact fun h => hlent _ _ (Option.some.inj h)
  · exact fun h => hlent _ _ (Option.some.inj h)
  · simp

theorem ownReading?_ne_inherited (a : Attribute) : e.ownReading? ≠ some (.ok (.inherited a)) := by
  unfold ownReading?
  cases hread : e.asked? SpecialName.reading with
  | none => simp
  | some read =>
    cases read with
    | ok found =>
      intro h
      obtain rfl := Except.ok.inj (Option.some.inj h)
      exact asked?_ne_inherited a hread
    | error f =>
      cases f with
      | missingAttribute =>
        cases hfallback : e.asked? SpecialName.fallback with
        | none => simp
        | some given =>
          rintro ⟨⟩
          exact asked?_ne_inherited a hfallback
      | _ => simp

/-- What a class finds in a way of its own is lent or computed, never HEAD. -/
theorem InheritsHead.reads_plainly (h : e.InheritsHead) :
    e.lineage.attribute? SpecialName.reading = none := by
  rw [← ownReading?_eq_none_iff]
  cases hown : e.ownReading? with
  | none => rfl
  | some found =>
    unfold InheritsHead read at h
    rw [hown] at h
    obtain rfl := congrArg Prod.snd h
    exact absurd hown (ownReading?_ne_inherited _)

/-- HEAD once it is known what reading GET gives. -/
theorem InheritsHead.callMethod_head_eq (h : e.InheritsHead) :
    ((e.callMethod Builtin.head.name).endpoint, (e.callMethod Builtin.head.name).result) =
      ((headAfter (e.read getName)).1, (headAfter (e.read getName)).2.map .value) := by
  have hcall : e.callMethod Builtin.head.name = e.head.map .value := by
    unfold callMethod
    rw [h]
  rw [hcall, ← head_eq]
  rfl

/-- HEAD ends as a call of GET does, but for the body. -/
theorem head_of_callable (h : e.InheritsHead) {found : Found} (hget : e.FindsGet (after, .ok found))
    (hcallable : found.isCallable = true) :
    (e.callMethod Builtin.head.name).endpoint = (e.callMethod getName).endpoint ∧
      (e.callMethod Builtin.head.name).result =
        (e.callMethod getName).result.map fun _ => .value emptyBody := by
  have hhead := h.callMethod_head_eq
  have hread := hget.eq_read h.reads_plainly
  rw [← hread, headAfter, if_pos hcallable] at hhead
  obtain ⟨hendpoint, hresult⟩ := Prod.mk.inj hhead
  rw [hendpoint, hresult, callMethod_of_read hread.symm hget.ne_builtin]
  refine ⟨rfl, ?_⟩
  cases (after.call found).2 <;> rfl

theorem head_of_givesNothing (h : e.InheritsHead) {outcome : Except Fault Found}
    (hget : e.FindsGet (after, outcome)) (hnothing : GivesNothing outcome) :
    (e.callMethod Builtin.head.name).endpoint = after ∧
      (e.callMethod Builtin.head.name).result = .error headRefusal := by
  have hhead := h.callMethod_head_eq
  rw [← hget.eq_read h.reads_plainly] at hhead
  have hrefused : headAfter (after, outcome) = (after, after.refuseHead.result) := by
    rcases hnothing with rfl | ⟨found, rfl, hcallable⟩
    · rfl
    · rw [headAfter, hcallable]
      rfl
  rw [hrefused] at hhead
  exact Prod.mk.inj hhead

/-- A fault of looking for GET is one of HEAD. -/
theorem head_of_unreadable (h : e.InheritsHead) {f : Fault} (hget : e.FindsGet (after, .error f))
    (hf : f ≠ .missingAttribute) :
    (e.callMethod Builtin.head.name).endpoint = (e.callMethod getName).endpoint ∧
      (e.callMethod Builtin.head.name).result = .error f ∧
      (e.callMethod getName).endpoint = after ∧ (e.callMethod getName).result = .error f := by
  have hhead := h.callMethod_head_eq
  have hread := hget.eq_read h.reads_plainly
  have hcall : e.callMethod getName = after.resting (.error f) [] := by
    unfold callMethod
    rw [← hread]
  have hfailed : headAfter (after, .error f) = (after, .error f) := by
    cases f with
    | missingAttribute => exact absurd rfl hf
    | _ => rfl
  rw [← hread, hfailed] at hhead
  obtain ⟨hendpoint, hresult⟩ := Prod.mk.inj hhead
  rw [hendpoint, hresult, hcall]
  exact ⟨rfl, rfl, rfl, rfl⟩

/-- HEAD keeps what the body of GET did before it failed. -/
theorem head_of_fails (h : e.InheritsHead) {r : Routine}
    (hget : e.FindsGet (e, .ok (.inherited (.member (.routine r)))))
    (hreceiver : r.receiver = .object) {first rest : List Step} {step : Step} {attached : Attached}
    {f : Fault} (hbody : r.body = first ++ step :: rest)
    (hfirst : Step.pass? (.object e.response) first = some (.object attached))
    (hstep : (step.run (.object attached)).2 = some (.error f)) :
    (e.callMethod Builtin.head.name).response = attached ∧
      (e.callMethod Builtin.head.name).result = .error f := by
  obtain ⟨hendpoint, hresult⟩ := head_of_callable h hget rfl
  have hread := hget.eq_read h.reads_plainly
  have hcall : e.call (.inherited (.member (.routine r))) =
      (e.settle (.object attached), .error f) := by
    change e.callRoutine r = _
    simp only [callRoutine, hreceiver, runBody, Receiver.host, hbody,
      Step.runAll_of_fails hfirst hstep]
  rw [Run.response, hendpoint, hresult, callMethod_of_read hread.symm hget.ne_builtin, hcall]
  exact ⟨(e.settle_object attached).2.2, rfl⟩

/-- HEAD is GET without its body. Where what goes by the name of GET can be called, HEAD leaves the
endpoint as a call of GET leaves it, and ends with the same fault or with an empty body; a body that
fails has done what it did until then. Where it cannot be called, or there is nothing, HEAD is
refused and leaves what looking for it has left, whatever else the classes have under the name; and
where looking for it fails otherwise, both fail that way. -/
theorem head_delegates (h : e.InheritsHead) :
    (∃ found, e.FindsGet found) ∧
    (∀ after found, e.FindsGet (after, .ok found) → found.isCallable = true →
      (e.callMethod Builtin.head.name).endpoint = (e.callMethod getName).endpoint ∧
        (e.callMethod Builtin.head.name).result =
          (e.callMethod getName).result.map fun _ => .value emptyBody) ∧
    (∀ r : Routine, e.FindsGet (e, .ok (.inherited (.member (.routine r)))) →
      r.receiver = .object →
      ∀ first step rest attached f, r.body = first ++ step :: rest →
        Step.pass? (.object e.response) first = some (.object attached) →
        (step.run (.object attached)).2 = some (.error f) →
        (e.callMethod Builtin.head.name).response = attached ∧
          (e.callMethod Builtin.head.name).result = .error f) ∧
    (∀ after outcome, e.FindsGet (after, outcome) →
      (outcome = .error .missingAttribute ∨
        ∃ found, outcome = .ok found ∧ found.isCallable = false) →
      (e.callMethod Builtin.head.name).endpoint = after ∧
        (e.callMethod Builtin.head.name).result = .error headRefusal) ∧
    (∀ after f, e.FindsGet (after, .error f) → f ≠ .missingAttribute →
      (e.callMethod Builtin.head.name).endpoint = (e.callMethod getName).endpoint ∧
        (e.callMethod Builtin.head.name).result = .error f ∧
        (e.callMethod getName).endpoint = after ∧ (e.callMethod getName).result = .error f) := by
  refine ⟨⟨_, findsGet_read h.reads_plainly⟩,
    fun _ _ => head_of_callable h, ?_, fun _ _ => head_of_givesNothing h,
    fun _ _ => head_of_unreadable h⟩
  intro r hget hreceiver first step rest attached f hbody hfirst hstep
  exact head_of_fails h hget hreceiver hbody hfirst hstep

/-- A class whose GET adds a header and then fails, with another GET behind it. -/
def draft : Lineage :=
  Lineage.blog.derive "Draft".toList
    [(getName, .routine ⟨.object, none, none,
      [.addHeader (.text "X".toList) (.text "1".toList), .fail (.rejected "draft".toList),
        .setStatus (.int 204) (.text [])]⟩)]

/-- A class that hides the GET of its base behind nothing. -/
def silent : Lineage := Lineage.blog.derive "Silent".toList [(getName, .value .null)]

/-- A class without a GET, with a fallback that takes a name. -/
def forgiving (body : List Step) : Lineage :=
  Lineage.derive [.base] "Forgiving".toList
    [(SpecialName.fallback, .routine ⟨.objectAndName, none, none, body⟩),
      ("post".toList, .routine ⟨.object, none, none, []⟩)]

/-- A fallback that adds a header, and then knows no more than that there is nothing. -/
def regretting : List Step :=
  [.addHeader (.text "X".toList) (.text "1".toList), .fail .missingAttribute]

theorem head_delegates_draft :
    (fresh draft .standard).InheritsHead ∧ (fresh silent .standard).InheritsHead ∧
      (fresh (forgiving regretting) .standard).InheritsHead ∧
      ((fresh draft .standard).callMethod Builtin.head.name).endpoint =
        ((fresh draft .standard).callMethod getName).endpoint ∧
      ((fresh draft .standard).callMethod Builtin.head.name).response =
        .response ⟨(∅ : Headers).add "X".toList (.text "1".toList), .int 200, .text []⟩ ∧
      ((fresh draft .standard).callMethod Builtin.head.name).result =
        .error (.rejected "draft".toList) ∧
      ((fresh silent .standard).callMethod Builtin.head.name).endpoint = fresh silent .standard ∧
      ((fresh silent .standard).callMethod Builtin.head.name).result = .error headRefusal ∧
      ((fresh (forgiving regretting) .standard).callMethod Builtin.head.name).result =
        .error headRefusal := by
  have hdraft : (fresh draft .standard).InheritsHead := read_builtin rfl rfl rfl
  have hsilent : (fresh silent .standard).InheritsHead := read_builtin rfl rfl rfl
  have hforgiving : (fresh (forgiving regretting) .standard).InheritsHead := read_builtin rfl rfl rfl
  obtain ⟨-, hdelegates, hfails, -, -⟩ := head_delegates hdraft
  obtain ⟨-, -, -, hrefused, -⟩ := head_delegates hsilent
  obtain ⟨-, -, -, hforgone, -⟩ := head_delegates hforgiving
  have hget := FindsGet.inherited (e := fresh draft .standard) rfl
    (Lineage.resolves_iff.2 rfl) trivial
  have hhidden := FindsGet.inherited (e := fresh silent .standard) rfl
    (Lineage.resolves_iff.2 rfl) trivial
  have hasked := FallsBack.asked (e := fresh (forgiving regretting) .standard)
    (Lineage.resolves_iff.2 rfl) rfl
  have habsent := FindsGet.absent rfl (fun a ha => by cases Lineage.resolves_iff.1 ha) hasked
  exact ⟨hdraft, hsilent, hforgiving, (hdelegates _ _ hget rfl).1,
    (hfails _ hget rfl [_] _ _ _ _ rfl rfl rfl).1, (hfails _ hget rfl [_] _ _ _ _ rfl rfl rfl).2,
    (hrefused _ _ hhidden (.inr ⟨_, rfl, rfl⟩)).1, (hrefused _ _ hhidden (.inr ⟨_, rfl, rfl⟩)).2,
    (hforgone _ _ habsent (.inl rfl)).2⟩

/-! ## HEAD by what the classes say -/

/-- HEAD does what the nearest class says that defines GET: it ends as a call of GET if that can be
called, and is refused if it cannot or if no class and no attribute of the object goes by the
name. -/
structure DelegatesByClass (e : Endpoint) : Prop where
  delegates : ∀ a, e.lineage.Resolves getName a → (Found.inherited a).isCallable = true →
    (e.callMethod Builtin.head.name).response = (e.callMethod getName).response ∧
      (e.callMethod Builtin.head.name).result =
        (e.callMethod getName).result.map fun _ => .value emptyBody
  refuses : e.attributes.get? getName = none →
    (∀ a, e.lineage.Resolves getName a →
      a.IsPlain ∧ (Found.inherited a).isCallable = false) →
    (e.callMethod Builtin.head.name).response = e.response ∧
      (e.callMethod Builtin.head.name).result = .error headRefusal

/-- A class without a GET that has something under a special name that is of no use there. -/
def misfit (special : Text) : Lineage :=
  Lineage.derive [.base] "Misfit".toList
    [(special, .routine ⟨.object, none, none, []⟩),
      ("post".toList, .routine ⟨.object, none, none, []⟩)]

/-- A class without a GET refuses HEAD and leaves the response alone, if the classes tell what HEAD
does. -/
theorem DelegatesByClass.refused {l : Lineage} (h : (fresh l .standard).DelegatesByClass)
    (hget : l.attribute? getName = none) :
    ((fresh l .standard).callMethod Builtin.head.name).response =
        (fresh l .standard).response ∧
      ((fresh l .standard).callMethod Builtin.head.name).result = .error headRefusal := by
  refine h.refuses rfl fun a ha => ?_
  cases hget.symm.trans (Lineage.resolves_iff.1 ha)

/-- An attribute of the object hides the GET of its class from HEAD, which is refused where a call
of GET fails another way. Where there is no GET, a fallback that has no use for a name fails before
HEAD can be refused, one that takes a name may give what HEAD runs, or change the response before it
knows that there is nothing, and a way of reading that has no use for a name does not let HEAD be
found. -/
theorem not_delegatesByClass_hidden_lenient :
    (∃ e, (fresh .blog .standard).assign getName (.value (.int 5)) = .ok e ∧
      e.InheritsHead ∧ ¬e.DelegatesByClass) ∧
    (∀ l ∈ [misfit SpecialName.fallback, forgiving [.give []], forgiving regretting],
      (fresh l .standard).InheritsHead ∧ ¬(fresh l .standard).DelegatesByClass) ∧
    (misfit SpecialName.reading).attribute? Builtin.head.name = some (.builtin .head) ∧
      ¬(fresh (misfit SpecialName.reading) .standard).DelegatesByClass := by
  refine ⟨⟨_, rfl, read_builtin rfl rfl rfl, ?_⟩, ?_, rfl, ?_⟩
  · intro h
    cases (h.delegates _ (Lineage.resolves_iff.2 rfl) rfl).2
  · simp only [List.mem_cons, List.not_mem_nil, or_false, forall_eq_or_imp, forall_eq]
    refine ⟨⟨read_builtin rfl rfl rfl, fun h => ?_⟩, ⟨read_builtin rfl rfl rfl, fun h => ?_⟩,
      read_builtin rfl rfl rfl, fun h => ?_⟩
    · cases (h.refused rfl).2
    · cases (h.refused rfl).2
    · cases (h.refused rfl).1
  · intro h
    cases (h.refused rfl).2

end Endpoint
end VerbDoc
