import VerbDoc.Handler.Step
import VerbDoc.Message

/-!
# Bodies on different responses

The body of a method changes the response of its object but never looks into it. Main statement: on
two objects that both have some response a body ends the same, and leaves either two objects of that
kind or one and the same object.
-/
namespace VerbDoc

/-- Both have some response, or they are the same. -/
inductive Attached.Alike : Attached → Attached → Prop where
  | responses (r s : Response) : Alike (.response r) (.response s)
  | same (a : Attached) : Alike a a

namespace Step

/-- Both end the same, and leave two objects to which something alike is attached. -/
def EndAlike {α : Type} (x y : Host × α) : Prop :=
  ∃ a b : Attached, a.Alike b ∧ x.1 = .object a ∧ y.1 = .object b ∧ x.2 = y.2

/-- A change of what is attached that does not look into a response. -/
def IsBlind (f : Attached → Except Fault Attached) : Prop :=
  ∀ r s, (∃ fault, f (.response r) = .error fault ∧ f (.response s) = .error fault) ∨
    ∃ r' s', f (.response r) = .ok (.response r') ∧ f (.response s) = .ok (.response s')

/-- A change of a header looks at its name alone before it is made. -/
theorem isBlind_of_nameOf {f : Attached → Except Fault Attached} {name : Value}
    (change : Response → Text → Response)
    (hf : ∀ r, f (.response r) = (Headers.nameOf name).map fun t => .response (change r t)) :
    IsBlind f := by
  intro r s
  rw [hf, hf]
  cases Headers.nameOf name with
  | error fault => exact .inl ⟨fault, rfl, rfl⟩
  | ok t => exact .inr ⟨change r t, change s t, rfl, rfl⟩

theorem isBlind_addHeader (name value : Value) : IsBlind (Attached.addHeader name value) :=
  isBlind_of_nameOf (fun r t => r.addHeader t value) fun _ => rfl

theorem isBlind_setHeader (name value : Value) : IsBlind (Attached.setHeader name value) :=
  isBlind_of_nameOf (fun r t => r.setHeader t value) fun _ => rfl

theorem isBlind_setStatus (code reason : Value) : IsBlind (Attached.setStatus code reason) :=
  fun r s => .inr ⟨r.setStatus code reason, s.setStatus code reason, rfl, rfl⟩

/-- A change of an object that does not look into its response. -/
theorem after_change_alike {f : Attached → Except Fault Attached} (hf : IsBlind f) {a b : Attached}
    (hab : a.Alike b) :
    EndAlike (after (.object a) ((Host.object a).change f))
      (after (.object b) ((Host.object b).change f)) := by
  cases hab with
  | responses r s =>
    rcases hf r s with ⟨fault, hr, hs⟩ | ⟨r', s', hr, hs⟩
    · refine ⟨_, _, .responses r s, ?_⟩
      simp [Host.change, hr, hs, Except.map, after]
    · refine ⟨_, _, .responses r' s', ?_⟩
      simp [Host.change, hr, hs, Except.map, after]
  | same a =>
    cases hchange : f a with
    | error fault => exact ⟨_, _, .same a, by simp [Host.change, hchange, Except.map, after]⟩
    | ok next => exact ⟨_, _, .same next, by simp [Host.change, hchange, Except.map, after]⟩

/-- One step ends the same on both. -/
theorem run_alike {a b : Attached} (hab : a.Alike b) (step : Step) :
    EndAlike (step.run (.object a)) (step.run (.object b)) := by
  cases step with
  | addHeader name value => exact after_change_alike (isBlind_addHeader name value) hab
  | setHeader name value => exact after_change_alike (isBlind_setHeader name value) hab
  | setStatus code reason => exact after_change_alike (isBlind_setStatus code reason) hab
  | dropResponse => exact ⟨.absent, .absent, .same _, rfl, rfl, rfl⟩
  | fail f => exact ⟨a, b, hab, rfl, rfl, rfl⟩
  | finish result => exact ⟨a, b, hab, rfl, rfl, rfl⟩
  | give body => exact ⟨a, b, hab, rfl, rfl, rfl⟩

/-- A whole body ends the same on both. -/
theorem runAll_alike {a b : Attached} (hab : a.Alike b) (body : List Step) :
    EndAlike (runAll (.object a) body) (runAll (.object b) body) := by
  induction body generalizing a b with
  | nil => exact ⟨a, b, hab, rfl, rfl, rfl⟩
  | cons step rest ih =>
    obtain ⟨a', b', hnext, ha, hb, hends⟩ := run_alike hab step
    rw [runAll, runAll]
    cases hrun : step.run (.object a) with
    | mk host ending =>
      cases hother : step.run (.object b) with
      | mk other otherEnding =>
        rw [hrun, hother] at hends
        rw [hrun] at ha
        rw [hother] at hb
        dsimp only at ha hb hends
        subst ha hb hends
        cases ending with
        | none => exact ih hnext
        | some result => exact ⟨a', b', hnext, rfl, rfl, rfl⟩

end Step
end VerbDoc
