import VerbDoc.Handler.Lineage
import VerbDoc.Proofs.Message.Replacing
import VerbDoc.Proofs.Message.Selecting

/-!
# Bodies that leave a header alone

A body may change other headers than a given one, and may neither touch that header nor detach the
response. Main statement: on two responses that differ in the header alone such a body ends the
same, and leaves two responses that differ in it alone, each with the values that it had there.
-/
namespace VerbDoc

mutual

/-- The step changes no header of that name, in whatever spelling, and leaves the response in its
place, and so does a function that it gives. A name that is no text goes by no spelling. -/
def Step.Spares (name : Text) : Step → Prop
  | .addHeader header _ | .setHeader header _ =>
    ∀ t ∈ header.asText?, Text.lower t ≠ Text.lower name
  | .dropResponse => False
  | .give body => Step.AllSpare name body
  | .setStatus _ _ | .fail _ | .finish _ => True

/-- Every step of a body leaves the header alone. -/
def Step.AllSpare (name : Text) : List Step → Prop
  | [] => True
  | step :: rest => step.Spares name ∧ Step.AllSpare name rest

end

mutual

def Step.decideSpares (name : Text) : (step : Step) → Decidable (step.Spares name)
  | .addHeader header _ | .setHeader header _ =>
    inferInstanceAs (Decidable (∀ t ∈ header.asText?, Text.lower t ≠ Text.lower name))
  | .dropResponse => .isFalse id
  | .give body => Step.decideAllSpare name body
  | .setStatus _ _ | .fail _ | .finish _ => .isTrue trivial

def Step.decideAllSpare (name : Text) : (body : List Step) → Decidable (Step.AllSpare name body)
  | [] => .isTrue trivial
  | step :: rest => @instDecidableAnd _ _ (step.decideSpares name) (Step.decideAllSpare name rest)

end

instance (name : Text) (step : Step) : Decidable (step.Spares name) := step.decideSpares name

instance (name : Text) (body : List Step) : Decidable (Step.AllSpare name body) :=
  Step.decideAllSpare name body

/-- A function that a call gives leaves the header alone. -/
def Outcome.Spares (name : Text) : Outcome → Prop
  | .function body => Step.AllSpare name body
  | .value _ | .object _ => True

/-- The bodies of what a name stands for leave the header alone. -/
def Attribute.Spares (name : Text) : Attribute → Prop
  | .member (.routine r) => Step.AllSpare name r.body
  | .member (.property body) => Step.AllSpare name body
  | .member (.value _) | .member .callable | .member (.nestedClass _) | .member .slot
  | .builtin _ | .implied => True

instance (name : Text) : (a : Attribute) → Decidable (a.Spares name)
  | .member (.routine r) => inferInstanceAs (Decidable (Step.AllSpare name r.body))
  | .member (.property body) => inferInstanceAs (Decidable (Step.AllSpare name body))
  | .member (.value _) | .member .callable | .member (.nestedClass _) | .member .slot
  | .builtin _ | .implied => .isTrue trivial

/-- The bodies of all that a class declares or inherits leave the header alone. -/
def Lineage.Spares (l : Lineage) (name : Text) : Prop :=
  ∀ n a, l.attribute? n = some a → a.Spares name

/-- A class leaves the header alone if all of its own attributes and those of its ancestors do. -/
theorem Lineage.spares_of_attributes {l : Lineage} {name : Text}
    (h : ∀ c ∈ l, ∀ e ∈ c.attributes, e.2.Spares name) : l.Spares name := by
  intro n a hn
  obtain ⟨c, hc, hfound⟩ := List.exists_of_findSome?_eq_some hn
  exact h c hc (n, a) (OrderedMap.mem_of_find hfound)

namespace Step

variable {name : Text} {α : Type}

/-- Both end the same and leave responses that differ in the header alone, the first of them with
the values that it had there. -/
def EndApart (name : Text) (r : Response) (x y : Host × α) : Prop :=
  ∃ r' s' : Response, x.1 = .object (.response r') ∧ y.1 = .object (.response s') ∧
    s'.without name = r'.without name ∧ r'.headers.values name = r.headers.values name ∧ x.2 = y.2

/-- A change of a response that is the same change of what is apart from the header. -/
theorem endApart_change {r s : Response} (hrs : s.without name = r.without name)
    {f : Attached → Except Fault Attached} (change : Response → Response)
    (hf : ∀ t : Response, f (.response t) = .ok (.response (change t)))
    (hapart : ∀ t : Response, (change t).without name = change (t.without name))
    (hvalues : (change r).headers.values name = r.headers.values name) :
    EndApart name r (after (.object (.response r)) ((Host.object (.response r)).change f))
      (after (.object (.response s)) ((Host.object (.response s)).change f)) := by
  refine ⟨change r, change s, ?_, ?_, ?_, hvalues, ?_⟩
  · rw [Host.change, hf]
    rfl
  · rw [Host.change, hf]
    rfl
  · rw [hapart, hapart, hrs]
  · rw [Host.change, Host.change, hf, hf]
    rfl

/-- A change under a name that is no text fails on both. -/
theorem endApart_of_error {r s : Response} (hrs : s.without name = r.without name)
    {f : Attached → Except Fault Attached} {fault : Fault}
    (hf : ∀ t : Response, f (.response t) = .error fault) :
    EndApart name r (after (.object (.response r)) ((Host.object (.response r)).change f))
      (after (.object (.response s)) ((Host.object (.response s)).change f)) := by
  refine ⟨r, s, ?_, ?_, hrs, rfl, ?_⟩
  · rw [Host.change, hf]
    rfl
  · rw [Host.change, hf]
    rfl
  · rw [Host.change, Host.change, hf, hf]
    rfl

/-- One step. -/
theorem run_endApart {step : Step} (hstep : step.Spares name) {r s : Response}
    (hrs : s.without name = r.without name) :
    EndApart name r (step.run (.object (.response r))) (step.run (.object (.response s))) := by
  cases step with
  | addHeader header value =>
    cases header with
    | text t =>
      exact endApart_change hrs (fun r => r.addHeader t value) (fun _ => rfl)
        (fun u => u.without_addHeader_of_ne (hstep t rfl) value)
        (r.headers.values_add_of_ne (hstep t rfl) value)
    | _ => exact endApart_of_error hrs fun _ => rfl
  | setHeader header value =>
    cases header with
    | text t =>
      exact endApart_change hrs (fun r => r.setHeader t value) (fun _ => rfl)
        (fun u => u.without_setHeader_of_ne (hstep t rfl) value)
        (r.headers.values_replace_of_ne (Ne.symm (hstep t rfl)) value)
    | _ => exact endApart_of_error hrs fun _ => rfl
  | setStatus code reason =>
    exact endApart_change hrs (fun r => r.setStatus code reason) (fun _ => rfl)
      (fun _ => rfl) rfl
  | dropResponse => exact absurd hstep id
  | fail f => exact ⟨r, s, rfl, rfl, hrs, rfl, rfl⟩
  | finish result => exact ⟨r, s, rfl, rfl, hrs, rfl, rfl⟩
  | give body => exact ⟨r, s, rfl, rfl, hrs, rfl, rfl⟩

/-- A whole body. -/
theorem runAll_endApart {body : List Step} (hbody : AllSpare name body) {r s : Response}
    (hrs : s.without name = r.without name) :
    EndApart name r (runAll (.object (.response r)) body)
      (runAll (.object (.response s)) body) := by
  induction body generalizing r s with
  | nil => exact ⟨r, s, rfl, rfl, hrs, rfl, rfl⟩
  | cons step rest ih =>
    obtain ⟨r', s', hr, hs, hnext, hvalues, hends⟩ := run_endApart hbody.1 hrs
    rw [runAll, runAll]
    cases hrun : step.run (.object (.response r)) with
    | mk host ending =>
      cases hother : step.run (.object (.response s)) with
      | mk other otherEnding =>
        rw [hrun, hother] at hends
        rw [hrun] at hr
        rw [hother] at hs
        dsimp only at hr hs hends
        subst hr hs hends
        cases ending with
        | some result => exact ⟨r', s', rfl, rfl, hnext, hvalues, rfl⟩
        | none =>
          obtain ⟨r'', s'', hr, hs, hlast, hkept, hends⟩ :=
            ih hbody.2 hnext
          exact ⟨r'', s'', hr, hs, hlast, hkept.trans hvalues, hends⟩

/-- A host that no step of a body changes stays as it is under the body. -/
theorem fst_runAll_of_steps {body : List Step} {host : Host}
    (hsteps : ∀ step ∈ body, (step.run host).1 = host) : (runAll host body).1 = host := by
  induction body with
  | nil => rfl
  | cons step rest ih =>
    rw [List.forall_mem_cons] at hsteps
    rw [runAll]
    cases hrun : step.run host with
    | mk next ending =>
      obtain rfl : next = host := (congrArg Prod.fst hrun).symm.trans hsteps.1
      cases ending with
      | some result => rfl
      | none => exact ih hsteps.2

/-- What is no object is changed by no step other than one that detaches a response. -/
theorem fst_run_of_no_object {step : Step} (hstep : step ≠ .dropResponse) {host : Host}
    (hhost : ∀ attached, host ≠ .object attached) : (step.run host).1 = host := by
  have hafter : ∀ f, (after host (host.change f)).1 = host := by
    intro f
    cases host with
    | object attached => exact absurd rfl (hhost attached)
    | handlerClass detached => rfl
    | bare looking detaching lasting => rfl
  cases step with
  | dropResponse => exact absurd rfl hstep
  | fail f => rfl
  | finish result => rfl
  | give body => rfl
  | _ => exact hafter _

/-- No step of a body that leaves a header alone detaches a response. -/
theorem ne_dropResponse_of_mem {body : List Step} (hbody : AllSpare name body) {step : Step}
    (hstep : step ∈ body) : step ≠ .dropResponse := by
  induction body with
  | nil => cases hstep
  | cons first rest ih =>
    rcases List.mem_cons.1 hstep with rfl | hrest
    · rintro rfl
      exact hbody.1
    · exact ih hbody.2 hrest

/-- What is no object stays as it is under a body that leaves a header alone. -/
theorem fst_runAll_of_no_object {body : List Step} (hbody : AllSpare name body) {host : Host}
    (hhost : ∀ attached, host ≠ .object attached) : (runAll host body).1 = host :=
  fst_runAll_of_steps fun _ hstep =>
    fst_run_of_no_object (ne_dropResponse_of_mem hbody hstep) hhost

/-- A stranger stays as it is under every body. -/
theorem fst_runAll_stranger (body : List Step) : (runAll .stranger body).1 = .stranger := by
  refine fst_runAll_of_steps fun step _ => ?_
  by_cases hstep : step = .dropResponse
  · subst hstep
    rfl
  · exact fst_run_of_no_object hstep (by simp [Host.stranger])

/-- What such a body gives leaves the header alone in turn. -/
theorem spares_of_runAll {body : List Step} (hbody : AllSpare name body) {host : Host}
    {o : Outcome} (ho : (runAll host body).2 = .ok o) : o.Spares name := by
  induction body generalizing host with
  | nil =>
    obtain rfl := Except.ok.inj ho
    trivial
  | cons step rest ih =>
    rw [runAll] at ho
    cases hrun : step.run host with
    | mk next ending =>
      rw [hrun] at ho
      cases ending with
      | none => exact ih hbody.2 ho
      | some result =>
        -- Of the steps that end a body only two give anything.
        dsimp only at ho
        subst ho
        have hended := congrArg Prod.snd hrun
        have hafter : ∀ changed, (after host changed).2 ≠ some (.ok o) := by
          intro changed
          cases changed <;> simp [after]
        cases step with
        | finish value =>
          obtain rfl := Except.ok.inj (Option.some.inj hended)
          trivial
        | give inner =>
          obtain rfl := Except.ok.inj (Option.some.inj hended)
          exact hbody.1
        | fail f => cases hended
        | _ => exact absurd hended (hafter _)

end Step

end VerbDoc
