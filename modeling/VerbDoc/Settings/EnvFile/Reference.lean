import VerbDoc.Text.Basic

/-!
# References to variables

A value may refer to a variable as `${NAME}`, or as `${NAME:-default}` with a text for a variable
that does not exist. Main statement: a value without a dollar sign refers to nothing and is left
as it is.
-/
namespace VerbDoc.Settings.EnvFile

/-- A variable that is referred to, with the text that stands in for it where it does not
exist. -/
structure Reference where
  name : Text
  default : Text
  deriving DecidableEq, Repr

def endsReference (c : Char) : Bool := c == '}' || c == ':'

/-- The reference whose opening brace stands before the text, and what stands after its closing
brace. -/
def splitReference? (t : Text) : Option (Reference × Text) :=
  let name := t.takeWhile fun c => !endsReference c
  match t.dropWhile fun c => !endsReference c with
  | '}' :: rest => some (⟨name, []⟩, rest)
  | ':' :: '-' :: rest =>
    match rest.dropWhile (· != '}') with
    | _ :: after => some (⟨name, rest.takeWhile (· != '}')⟩, after)
    | [] => none
  | _ => none

theorem length_lt_of_splitReference? {t after : Text} {r : Reference}
    (h : splitReference? t = some (r, after)) : after.length < t.length := by
  have hle (p : Char → Bool) (u : Text) : (u.dropWhile p).length ≤ u.length :=
    (List.dropWhile_sublist p).length_le
  have hdrop := hle (fun c => !endsReference c) t
  unfold splitReference? at h
  dsimp only at h
  split at h
  · next rest heq =>
    cases h
    rw [heq, List.length_cons] at hdrop
    omega
  · next rest heq =>
    have hdefault := hle (· != '}') rest
    split at h
    · next d more hmore =>
      cases h
      rw [heq, List.length_cons, List.length_cons] at hdrop
      rw [hmore, List.length_cons] at hdefault
      omega
    · cases h
  · cases h

def substitute (lookup : Text → Option Text) (t : Text) : Text :=
  match t with
  | [] => []
  | '$' :: '{' :: rest =>
    match _h : splitReference? rest with
    | some (r, after) => (lookup r.name).getD r.default ++ substitute lookup after
    | none => '$' :: substitute lookup ('{' :: rest)
  | c :: rest => c :: substitute lookup rest
termination_by t.length
decreasing_by
  · have := length_lt_of_splitReference? _h
    simp only [List.length_cons]
    omega
  · simp
  · simp

/-- A text without a dollar sign is left as it is. -/
theorem substitute_eq_self (lookup : Text → Option Text) {t : Text} (h : '$' ∉ t) :
    substitute lookup t = t := by
  induction t with
  | nil => simp [substitute]
  | cons c rest ih =>
    rw [List.mem_cons, not_or] at h
    rw [substitute, ih h.2]
    rintro _ rfl
    exact absurd rfl h.1

end VerbDoc.Settings.EnvFile
