import VerbDoc.Settings.Basic

/-!
# Settings from texts

A setting that is given a text has it as its value, but for the two switches, which the text must
have a word for. Main statement: settings are made of any texts unless a switch is given what is no
such word, and then each such switch is reported.
-/
namespace VerbDoc.Settings

open Text

def switches : List Setting := [.debug, .fileLogging]

/-- A word for yes or no, in any case of its ASCII letters. -/
def IsSwitchWord (t : Text) : Prop := lowerAscii t ∈ Value.trueWords ++ Value.falseWords

instance (t : Text) : Decidable (IsSwitchWord t) :=
  inferInstanceAs (Decidable (_ ∈ Value.trueWords ++ Value.falseWords))

def isYes (t : Text) : Bool := Value.trueWords.contains (lowerAscii t)

def givenValue (s : Setting) (t : Text) : Value :=
  if s ∈ switches then .bool (isYes t) else .text t

variable {given : Setting → Option Text} {s : Setting}

/-- A switch is given what is no word for it. -/
def isMisworded (given : Setting → Option Text) (s : Setting) : Bool :=
  (given s).any fun t => (Value.boolOfText? t).isNone

/-- The settings that the texts give, and those of `base` where none is given. -/
def ofTexts (given : Setting → Option Text) (base : Settings) : Settings where
  httpVerbs := (given .httpVerbs).getD base.httpVerbs
  contentTypes := (given .contentTypes).getD base.contentTypes
  acceptTypes := (given .acceptTypes).getD base.acceptTypes
  annotationMarker := (given .annotationMarker).getD base.annotationMarker
  debug := (given .debug).elim base.debug isYes
  logLevel := (given .logLevel).getD base.logLevel
  logFile := (given .logFile).or base.logFile
  fileLogging := (given .fileLogging).elim base.fileLogging isYes

theorem boolOfText?_eq (t : Text) :
    Value.boolOfText? t =
      if isYes t then some true
      else if Value.falseWords.contains (lowerAscii t) then some false else none := rfl

theorem boolOfText?_isNone_iff {t : Text} :
    (Value.boolOfText? t).isNone = true ↔ ¬IsSwitchWord t := by
  rw [boolOfText?_eq, IsSwitchWord, isYes]
  by_cases hyes : lowerAscii t ∈ Value.trueWords
  · simp [hyes]
  · by_cases hno : lowerAscii t ∈ Value.falseWords <;> simp [hyes, hno]

theorem isMisworded_iff :
    isMisworded given s = true ↔ ∃ t, given s = some t ∧ ¬IsSwitchWord t := by
  simp only [isMisworded, Option.any_eq_true, boolOfText?_isNone_iff]

theorem value_ofTexts (given : Setting → Option Text) (base : Settings) (s : Setting) :
    (ofTexts given base).value s = (given s).elim (base.value s) (givenValue s) := by
  cases s <;> simp only [value, ofTexts] <;> cases given _ <;> rfl

theorem choose_text (given : Setting → Option Text) (s : Setting) (default : Text) :
    choose (fun s => (given s).map .text) s Value.asText? default =
      .valid ((given s).getD default) := by
  unfold choose
  dsimp only
  cases given s <;> rfl

theorem choose_optionalText (given : Setting → Option Text) (s : Setting)
    (default : Option Text) :
    choose (fun s => (given s).map .text) s Value.asOptionalText? default =
      .valid ((given s).or default) := by
  unfold choose
  dsimp only
  cases given s <;> rfl

theorem choose_switch (given : Setting → Option Text) (s : Setting) (default : Bool) :
    choose (fun s => (given s).map .text) s Value.asBool? default =
      if isMisworded given s then .invalid [s.name] else .valid ((given s).elim default isYes) := by
  unfold choose isMisworded
  dsimp only
  cases given s with
  | none => rfl
  | some t =>
    simp only [Option.map_some, Option.any_some, Option.elim_some, Value.asBool?, boolOfText?_eq]
    by_cases hyes : isYes t = true
    · simp [hyes]
    · by_cases hno : lowerAscii t ∈ Value.falseWords <;> simp [hyes, hno]

/-- Texts make settings unless a switch is given what is no word for it, and then each such switch
is reported. -/
theorem build_texts (given : Setting → Option Text) (base : Settings) :
    build (fun s => (given s).map .text) base =
      match switches.filter (isMisworded given) with
      | [] => .ok (ofTexts given base)
      | s :: more => .error (.invalidFields (sortedSet ((s :: more).map Setting.name))) := by
  have hfilter : switches.filter (isMisworded given) =
      (if isMisworded given .debug then [.debug] else []) ++
        if isMisworded given .fileLogging then [.fileLogging] else [] := by
    rw [switches, List.filter_cons, List.filter_cons, List.filter_nil]
    cases isMisworded given .debug <;> cases isMisworded given .fileLogging <;> rfl
  rw [build, hfilter]
  simp only [choose_text, choose_optionalText, choose_switch]
  cases isMisworded given .debug <;> cases isMisworded given .fileLogging <;> rfl

theorem exists_build_eq_error_iff {base : Settings} :
    (∃ f, build (fun s => (given s).map .text) base = .error f) ↔
      ∃ s ∈ switches, isMisworded given s = true := by
  rw [build_texts]
  cases hfaulty : switches.filter (isMisworded given) with
  | nil =>
    refine iff_of_false (by simp) ?_
    rintro ⟨s, hs, hwrong⟩
    exact List.filter_eq_nil_iff.1 hfaulty s hs hwrong
  | cons s more =>
    have hmem : s ∈ switches.filter (isMisworded given) := by simp [hfaulty]
    exact iff_of_true ⟨_, rfl⟩ ⟨s, List.mem_filter.1 hmem⟩

theorem names_of_build_eq_error {base : Settings} {f : Fault}
    (h : build (fun s => (given s).map .text) base = .error f) :
    ∃ names, f = .invalidFields names ∧
      ∀ name, name ∈ names ↔ ∃ s ∈ switches, name = s.name ∧ isMisworded given s = true := by
  rw [build_texts] at h
  split at h
  · cases h
  · next s more hfaulty =>
    cases h
    refine ⟨_, rfl, fun name => ?_⟩
    rw [mem_sortedSet, ← hfaulty, List.mem_map]
    constructor
    · rintro ⟨s, hs, rfl⟩
      exact ⟨s, (List.mem_filter.1 hs).1, rfl, (List.mem_filter.1 hs).2⟩
    · rintro ⟨s, hs, rfl, hwrong⟩
      exact ⟨s, List.mem_filter.2 ⟨hs, hwrong⟩, rfl⟩

theorem value_of_build_eq_ok {base settings : Settings}
    (h : build (fun s => (given s).map .text) base = .ok settings) (s : Setting) :
    settings.value s = (given s).elim (base.value s) (givenValue s) := by
  rw [build_texts] at h
  split at h
  · obtain rfl := Except.ok.inj h
    exact value_ofTexts _ _ s
  · cases h

end VerbDoc.Settings
