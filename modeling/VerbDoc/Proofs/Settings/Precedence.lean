import VerbDoc.Proofs.Settings.Adopting
import VerbDoc.Proofs.Settings.FromTexts
import VerbDoc.Record
import VerbDoc.Record
import VerbDoc.Record

/-!
# Which source gives a setting

At the start a file is adopted into the environment, the settings are read from the environment and
from a file, and logging is set up by them. Main statement: which texts the settings are given, that
loading fails just where a variable cannot be adopted, where one of the two switches is given a word
for neither yes nor no, or where logging cannot be set up, and what the settings are otherwise.
-/
namespace VerbDoc.Settings

open Text EnvFile Environment

/-! ## What files say -/

/-- What a file says, where each of its lines is blank, a comment, or a variable with its value; a
file that is not there says nothing. -/
inductive FileTells : Option Text → List Entry → Prop where
  | absent : FileTells none []
  | lines {file : Text} {told : List (List Entry)}
    (hlines : List.Forall₂ Tells (lines (dropMark file)) told) :
    FileTells (some file) told.flatten

theorem entriesOf_of_tells {file : Option Text} {es : List Entry} (h : FileTells file es) :
    entriesOf file = es := by
  cases h with
  | absent => rfl
  | lines hlines => exact entries_of_tells hlines

/-- A variable with a value that is written as it is. -/
theorem tells_plain {name value : Text} (hname : IsName name)
    (hvalue : (value.all fun c => !(isBlank c || c == '#' || c == '\'' || c == '"')) = true) :
    Tells (name ++ '=' :: value) [(name, some value)] := by
  have hplain : ∀ c ∈ value, isBlank c = false ∧ c ≠ '#' ∧ c ≠ '\'' ∧ c ≠ '"' := by
    intro c hc
    simpa [and_assoc] using List.all_eq_true.1 hvalue c hc
  have hblank : Blank [] := by simp [Blank]
  have htrimmed : Trimmed value :=
    ⟨fun c hc => (hplain c (List.mem_of_mem_head? hc)).1,
      fun c hc => (hplain c (List.mem_of_mem_getLast? hc)).1⟩
  have hopening : ∀ c, value.head? = some c → c ≠ '\'' ∧ c ≠ '"' :=
    fun c hc => (hplain c (List.mem_of_mem_head? hc)).2.2
  have hinside : ∀ c, [c, '#'] <:+: [] ++ value → isBlank c = false := by
    intro c hc
    exact absurd rfl (hplain '#' (hc.subset (by simp))).2.1
  have hwritten : WritesValue value value := by
    simpa using WritesValue.plain hblank htrimmed hopening hinside (.blank hblank) (by simp)
  exact .assigns hblank .nothing hname hblank (fun _ _ => rfl) hwritten

/-! ## The steps of loading -/

namespace Startup

variable {u : Startup} {e : Environment}

theorem enlarged_eq (u : Startup) :
    u.enlarged = ((variablesOf (lookupBehind u.environment.bindings) (entriesOf u.adopted)).entries
      |>.foldlM adoptVariable u.environment.bindings).map
        fun bindings => { u.environment with bindings } := by
  unfold enlarged entriesOf
  cases u.adopted <;> rfl

/-- Adopting the file fails exactly where something that it adds cannot be bound. -/
theorem enlarged_eq_error_iff :
    (∃ f, u.enlarged = .error f) ↔ ∃ added,
      Adopts u.environment.bindings (entriesOf u.adopted) added ∧
        ∃ b ∈ added, ¬IsBindable b.1 b.2 := by
  have hnew := adopts_newOnes u.environment.bindings (entriesOf u.adopted)
  have hfails := (@foldlM_adoptVariable u.environment.bindings _
    (variablesOf (lookupBehind u.environment.bindings) (entriesOf u.adopted)).nodup_keys).1
  have hsame : (∃ f, u.enlarged = .error f) ↔ ∃ b ∈ newOnes u.environment.bindings
      (variablesOf (lookupBehind u.environment.bindings) (entriesOf u.adopted)).entries,
        ¬IsBindable b.1 b.2 := by
    rw [← hfails, enlarged_eq]
    cases List.foldlM adoptVariable u.environment.bindings _ <;> simp [Except.map]
  rw [hsame]
  constructor
  · exact fun h => ⟨_, hnew, h⟩
  · rintro ⟨added, hadopts, b, hb, hnot⟩
    exact ⟨b, (hnew.mem_iff b.1 b.2).2 ((hadopts.mem_iff b.1 b.2).1 hb), hnot⟩

/-- Adopting the file puts what it adds behind what is there. -/
theorem of_enlarged_eq_ok (h : u.enlarged = .ok e) :
    e.file = u.environment.file ∧ ∃ added,
      Adopts u.environment.bindings (entriesOf u.adopted) added ∧
        e.bindings.entries = u.environment.bindings.entries ++ added := by
  rw [enlarged_eq] at h
  obtain ⟨next, hnext, rfl⟩ := Record.of_map_eq_ok h
  exact ⟨rfl, _, adopts_newOnes _ _, (foldlM_adoptVariable (OrderedMap.nodup_keys _)).2 next hnext⟩

/-- The settings that are loaded, by the entries of the files. -/
theorem load_eq (u : Startup) :
    u.load = (do
      let next ← (variablesOf (lookupBehind u.environment.bindings) (entriesOf u.adopted)).entries
        |>.foldlM adoptVariable u.environment.bindings
      let settings ← build
        (fun s => (givenBy? next (entriesOf u.environment.file) s).map .text) standard
      settings.startLogging u.running u.opening
      return settings) := by
  unfold load
  rw [enlarged_eq]
  cases List.foldlM adoptVariable u.environment.bindings _ with
  | error f => rfl
  | ok next =>
    have hgiven : (Environment.mk next u.environment.file).given =
        fun s => (givenBy? next (entriesOf u.environment.file) s).map .text := by
      funext s
      rw [Environment.given, givenText?_eq]
    simp only [Except.map, bind, Except.bind, Environment.load_eq, hgiven]

end Startup

/-! ## The settings that are read -/

/-- Each setting has the value of the text that it is given, and its standard value where it is
given none. -/
def Follows (gives : Setting → Text → Prop) (settings : Settings) : Prop :=
  ∀ s, (∀ t, gives s t → settings.value s = givenValue s t) ∧
    ((∀ t, ¬gives s t) → settings.value s = standard.value s)

namespace Environment

variable {e : Environment} {settings : Settings}

/-- The setting is given what is no word for a switch. -/
def Miswords (e : Environment) (s : Setting) : Prop :=
  ∃ t, Gives e.bindings (entriesOf e.file) s t ∧ ¬IsSwitchWord t

/-- The settings are those that the environment and the file give. -/
def Determines (e : Environment) : Settings → Prop := Follows (Gives e.bindings (entriesOf e.file))

theorem isMisworded_givenText?_iff {s : Setting} :
    isMisworded e.givenText? s = true ↔ e.Miswords s := by
  simp only [isMisworded_iff, Miswords, givenText?_eq, givenBy?_eq_some_iff]

theorem exists_load_eq_error_iff :
    (∃ f, e.load = .error f) ↔ ∃ s ∈ switches, e.Miswords s := by
  simp only [← isMisworded_givenText?_iff]
  rw [load_eq]
  exact exists_build_eq_error_iff

theorem names_of_load_eq_error {f : Fault} (h : e.load = .error f) :
    ∃ names, f = .invalidFields names ∧
      ∀ name, name ∈ names ↔ ∃ s ∈ switches, name = s.name ∧ e.Miswords s := by
  simp only [← isMisworded_givenText?_iff]
  rw [load_eq] at h
  exact names_of_build_eq_error h

theorem determines_of_load_eq_ok (h : e.load = .ok settings) : e.Determines settings := by
  rw [load_eq] at h
  intro s
  rw [value_of_build_eq_ok h s]
  constructor
  · intro t ht
    rw [givenText?_eq, givenBy?_eq_some_iff.2 ht, Option.elim_some]
  · intro hnone
    have hungiven : e.givenText? s = none := by
      rw [givenText?_eq]
      exact Option.eq_none_iff_forall_ne_some.2 fun t ht => hnone t (givenBy?_eq_some_iff.1 ht)
    rw [hungiven, Option.elim_none]

theorem eq_of_value_eq {a b : Settings} (h : ∀ s, a.value s = b.value s) : a = b := by
  have hfile : a.logFile = b.logFile := by
    have hvalue := h .logFile
    simp only [Settings.value] at hvalue
    split at hvalue <;> split at hvalue <;> simp_all
  have hverbs := h .httpVerbs
  have hcontent := h .contentTypes
  have haccept := h .acceptTypes
  have hmarker := h .annotationMarker
  have hdebug := h .debug
  have hlevel := h .logLevel
  have hlogging := h .fileLogging
  cases a
  cases b
  simp_all [Settings.value]

/-- What the environment and the file give determines all settings. -/
theorem Determines.unique {a b : Settings} (ha : e.Determines a) (hb : e.Determines b) :
    a = b := by
  refine eq_of_value_eq fun s => ?_
  by_cases hgiven : ∃ t, Gives e.bindings (entriesOf e.file) s t
  · obtain ⟨t, ht⟩ := hgiven
    rw [(ha s).1 t ht, (hb s).1 t ht]
  · have hnone := not_exists.1 hgiven
    rw [(ha s).2 hnone, (hb s).2 hnone]

end Environment

/-! ## Names that are spelled in one way -/

/-- No setting has its name in two spellings among these. -/
def SpelledOnce (names : List Text) : Prop :=
  ∀ s : Setting, ∀ name ∈ names, ∀ other ∈ names,
    lower name = s.name → lower other = s.name → name = other

/-- The last entry for a setting gives it this text. -/
inductive LastGives (look : Variables → Text → Option Text) (es : List Entry) (s : Setting) :
    Text → Prop where
  | entry {before after : List Entry} {name written : Text}
    (hsplit : es = before ++ (name, some written) :: after) (hname : lower name = s.name)
    (hafter : ∀ e ∈ after, lower e.1 ≠ s.name) :
    LastGives look es s (substitute (look (variablesOf look before)) written)

theorem LastGives.ne_nil {look : Variables → Text → Option Text} {es : List Entry} {s : Setting}
    {t : Text} (h : LastGives look es s t) : es ≠ [] := by
  obtain ⟨hsplit, -, -⟩ := h
  simp [hsplit]

/-- A setting has the text of its variable in the environment, where there is none that of its last
entry in the file that is adopted, and where there is none either that of its last entry in the
other file. The latter may refer to all variables of the enlarged environment. -/
inductive Precedes (bindings enlarged : OrderedMap Text Text) (adopted es : List Entry)
    (s : Setting) : Text → Prop where
  | environment {name t : Text} (hname : lower name = s.name)
    (hbound : bindings.get? name = some t) : Precedes bindings enlarged adopted es s t
  | adopted {t : Text} (hunbound : ∀ name ∈ bindings.keys, lower name ≠ s.name)
    (hlast : LastGives (lookupBehind bindings) adopted s t) :
    Precedes bindings enlarged adopted es s t
  | file {t : Text} (hunbound : ∀ name ∈ bindings.keys, lower name ≠ s.name)
    (hunadopted : ∀ name ∈ adopted.map Prod.fst, lower name ≠ s.name)
    (hlast : LastGives (lookup enlarged) es s t) : Precedes bindings enlarged adopted es s t

section Spelled

variable {bindings enlarged : OrderedMap Text Text} {adopted es : List Entry}
  {added : List (Text × Text)} {s : Setting} {t : Text}

theorem get?_of_entries_append {name : Text}
    (hentries : enlarged.entries = bindings.entries ++ added) (h : (name, t) ∈ bindings.entries ++ added) : enlarged.get? name = some t :=
  OrderedMap.find_eq_of_mem (e := (name, t)) enlarged.nodup_keys (hentries ▸ h)

theorem mem_keys_of_entries_append (hadopts : Adopts bindings adopted added)
    (hentries : enlarged.entries = bindings.entries ++ added) {name : Text}
    (h : name ∈ enlarged.keys) : name ∈ bindings.keys ++ adopted.map Prod.fst := by
  rw [OrderedMap.keys, hentries, List.map_append, List.mem_append] at h
  rcases h with h | h
  · exact List.mem_append_left _ h
  · exact List.mem_append_right _ (OrderedMap.mem_distinct.1 (hadopts.order.mem h))

/-- Where each name is spelled in one way, the sources come in their order. -/
theorem Precedes.gives (hadopts : Adopts bindings adopted added)
    (hentries : enlarged.entries = bindings.entries ++ added)
    (hone : SpelledOnce (bindings.keys ++ adopted.map Prod.fst ++ es.map Prod.fst))
    (h : Precedes bindings enlarged adopted es s t) : Gives enlarged es s t := by
  have hkeys : ∀ name ∈ enlarged.keys,
      name ∈ bindings.keys ++ adopted.map Prod.fst ++ es.map Prod.fst :=
    fun name hname => List.mem_append_left _ (mem_keys_of_entries_append hadopts hentries hname)
  have hbound : ∀ name, lower name = s.name → (name, t) ∈ bindings.entries ++ added →
      Gives enlarged es s t := by
    intro name hname hmem
    have hget := get?_of_entries_append hentries hmem
    have hkey := hkeys name (OrderedMap.mem_keys_of_get? hget)
    exact .environment <| lastBound_of_only hget hname fun other hother hspelled =>
      hone s other (hkeys other hother) name hkey hspelled hname
  cases h with
  | @environment name _ hname hget =>
    exact hbound name hname (List.mem_append_left _ (OrderedMap.mem_of_find hget))
  | adopted hunbound hlast =>
    cases hlast with
    | @entry before after name written hsplit hname hafter =>
      refine hbound name hname (List.mem_append_right _ ((hadopts.mem_iff _ _).2 ?_))
      refine ⟨fun hmem => hunbound name hmem hname, before, written, after, hsplit, ?_, rfl⟩
      intro hmem
      obtain ⟨e, he, rfl⟩ := List.mem_map.1 hmem
      exact hafter e he hname
  | file hunbound hunadopted hlast =>
    refine .file (fun name hmem => ?_) ?_
    · rcases List.mem_append.1 (mem_keys_of_entries_append hadopts hentries hmem) with h | h
      · exact hunbound name h
      · exact hunadopted name h
    · cases hlast with
      | @entry before after name written hsplit hname hafter =>
        have hentry : ∀ e ∈ es, e.1 ∈ bindings.keys ++ adopted.map Prod.fst ++ es.map Prod.fst :=
          fun e he => List.mem_append_right _ (List.mem_map_of_mem he)
        subst hsplit
        refine fileGives_last hname (.inl fun e he hspelled => ?_) hafter
        exact hone s e.1 (hentry e (by simp [he])) name (hentry (name, some written) (by simp))
          hspelled hname

/-- What no source has a name for is given nothing. -/
theorem not_gives_of_unnamed (hadopts : Adopts bindings adopted added)
    (hentries : enlarged.entries = bindings.entries ++ added)
    (hnone : ∀ name ∈ bindings.keys ++ adopted.map Prod.fst ++ es.map Prod.fst,
      lower name ≠ s.name) : ¬Gives enlarged es s t := by
  intro h
  obtain ⟨name, hmem, hname⟩ := h.exists_name
  refine hnone name ?_ hname
  rcases List.mem_append.1 hmem with h | h
  · exact List.mem_append_left _ (mem_keys_of_entries_append hadopts hentries h)
  · exact List.mem_append_right _ h

end Spelled

namespace Startup

/-! ## Loading -/

/-- The environment that the settings are read from: the variables of the one at the start, and
behind them what the adopted file adds. -/
def Enlarges (u : Startup) (e : Environment) : Prop :=
  e.file = u.environment.file ∧ ∃ added,
    Adopts u.environment.bindings (entriesOf u.adopted) added ∧
      e.bindings.entries = u.environment.bindings.entries ++ added

def names (u : Startup) : List Text :=
  u.environment.bindings.keys ++ (entriesOf u.adopted).map Prod.fst ++
    (entriesOf u.environment.file).map Prod.fst

theorem exists_load_eq_error_iff {u : Startup} {e : Environment} (h : u.enlarged = .ok e) :
    (∃ f, u.load = .error f) ↔ (∃ s ∈ switches, e.Miswords s) ∨
      ∃ settings, e.Determines settings ∧
        ∃ f, settings.startLogging u.running u.opening = .error f := by
  rw [← Environment.exists_load_eq_error_iff]
  unfold load
  rw [h]
  cases hload : e.load with
  | error f => exact iff_of_true ⟨f, by simp [bind, Except.bind, hload]⟩ (.inl ⟨f, rfl⟩)
  | ok settings =>
    have hsettings := determines_of_load_eq_ok hload
    have hrun : (∃ f, (settings.startLogging u.running u.opening >>= fun _ => pure settings) =
        Except.error f) ↔ ∃ f, settings.startLogging u.running u.opening = .error f := by
      cases settings.startLogging u.running u.opening <;>
        simp [bind, Except.bind, pure, Except.pure]
    simp only [bind, Except.bind, hload] at hrun ⊢
    rw [hrun]
    constructor
    · exact fun hfails => .inr ⟨settings, hsettings, hfails⟩
    · rintro (⟨f, hf⟩ | ⟨other, hother, hfails⟩)
      · cases hf
      · rwa [← hother.unique hsettings]

/-- A file that is adopted comes between the environment and the other file, and the standard values
come last. Adopting fails just where something that the file adds cannot be bound. After it, loading
fails just where a switch is given what is no word for yes or no, and then each such switch is
reported, or where the settings do not let logging be set up. Otherwise each setting has the value
of the text that it is given, and its standard value where it is given none. The defaults that are
read from the environment never count. -/
theorem load_precedence (u : Startup) :
    (∀ es, FileTells u.adopted es → entriesOf u.adopted = es) ∧
    (∀ es, FileTells u.environment.file es → entriesOf u.environment.file = es) ∧
    ((∃ f, u.enlarged = .error f) ↔ ∃ added,
      Adopts u.environment.bindings (entriesOf u.adopted) added ∧
        ∃ b ∈ added, ¬IsBindable b.1 b.2) ∧
    (∀ f, u.enlarged = .error f → u.load = .error f) ∧
    ∀ e, u.enlarged = .ok e →
      u.Enlarges e ∧
      ((∃ f, u.load = .error f) ↔ (∃ s ∈ switches, e.Miswords s) ∨
        ∃ settings, e.Determines settings ∧
          ∃ f, settings.startLogging u.running u.opening = .error f) ∧
      ((∃ s ∈ switches, e.Miswords s) → ∃ names, u.load = .error (.invalidFields names) ∧
        ∀ name, name ∈ names ↔ ∃ s ∈ switches, name = s.name ∧ e.Miswords s) ∧
      (∀ settings, u.load = .ok settings → e.Determines settings) ∧
      (SpelledOnce u.names → ∀ s t,
        Precedes u.environment.bindings e.bindings (entriesOf u.adopted)
          (entriesOf u.environment.file) s t →
        Gives e.bindings (entriesOf e.file) s t) ∧
      (∀ s, (∀ name ∈ u.names, lower name ≠ s.name) →
        ∀ t, ¬Gives e.bindings (entriesOf e.file) s t) ∧
      e.load = build e.given standard := by
  refine ⟨fun _ => entriesOf_of_tells, fun _ => entriesOf_of_tells, enlarged_eq_error_iff, ?_, ?_⟩
  · intro f hf
    simp [load, hf, bind, Except.bind]
  · intro e he
    obtain ⟨hfile, added, hadopts, hentries⟩ := of_enlarged_eq_ok he
    have hload : u.load = do
        let settings ← e.load
        settings.startLogging u.running u.opening
        return settings := by
      simp only [load, he, bind, Except.bind]
    refine ⟨⟨hfile, added, hadopts, hentries⟩, exists_load_eq_error_iff he, ?_, ?_, ?_, ?_,
      Environment.load_eq e⟩
    · intro hwrong
      obtain ⟨f, hf⟩ := Environment.exists_load_eq_error_iff.2 hwrong
      obtain ⟨names, rfl, hnames⟩ := names_of_load_eq_error hf
      exact ⟨names, by simp [hload, hf, bind, Except.bind], hnames⟩
    · intro settings hsettings
      rw [hload] at hsettings
      obtain ⟨other, hother, hrest⟩ := Record.of_bind_eq_ok hsettings
      obtain ⟨-, -, hsame⟩ := Record.of_bind_eq_ok hrest
      cases hsame
      exact determines_of_load_eq_ok hother
    · intro hone s t hprecedes
      rw [hfile]
      exact hprecedes.gives hadopts hentries hone
    · intro s hnone t
      rw [hfile]
      exact not_gives_of_unnamed hadopts hentries hnone

/-! ## A start that goes well, and two that fail -/

theorem eq_ok_of_toOption {α : Type} {x : Except Fault α} {a : α} (h : x.toOption = some a) :
    x = .ok a := by
  cases x with
  | error f => cases h
  | ok b => exact congrArg Except.ok (Option.some.inj h)

theorem exists_eq_error_of_toOption {α : Type} {x : Except Fault α} (h : x.toOption = none) :
    ∃ f, x = .error f := by
  cases x with
  | error f => exact ⟨f, rfl⟩
  | ok b => cases h

/-- A file with a comment, a setting in quotes, and a switch. -/
def quietFile : Text := "# quiet\n\r\n log_level = 'error' # loud\nDEBUG=maybe".toList

def quietEntries : List (List Entry) :=
  [[], [], [("log_level".toList, some "error".toList)], [("DEBUG".toList, some "maybe".toList)]]

theorem fileTells_quiet : FileTells (some quietFile) quietEntries.flatten := by
  have hblank : Blank [] := by simp [Blank]
  have hspace : Blank [' '] := by simp [Blank, show isBlank ' ' = true by decide]
  refine .lines (.cons ?_ (.cons ?_ (.cons ?_ (.cons ?_ .nil))))
  · exact .comment hblank " quiet".toList
  · exact .blank hblank
  · have hname : IsName "log_level".toList := by decide
    have hquotes : Quotes '\'' singleEscape? "error".toList "error".toList :=
      .of_not_mem (by decide) (by decide)
    exact .assigns hspace .nothing hname hspace (by decide)
      (.single hspace hquotes (.comment hspace " loud".toList))
  · exact @tells_plain "DEBUG".toList "maybe".toList (by decide) (by decide)

/-- The switch stands in the environment too, and the file is both adopted and read. -/
def quiet : Startup where
  environment := ⟨.ofList [("DEBUG".toList, "ON".toList), ("HOME".toList, "/".toList)],
    some quietFile⟩
  adopted := some quietFile
  running := false
  opening _ := .ok ()

def quietEnvironment : Environment :=
  ⟨.ofList [("DEBUG".toList, "ON".toList), ("HOME".toList, "/".toList),
    ("log_level".toList, "error".toList)], some quietFile⟩

theorem enlarged_quiet : quiet.enlarged = .ok quietEnvironment := by
  rw [enlarged_eq]
  refine eq_ok_of_toOption ?_
  rw [show entriesOf quiet.adopted = _ from entriesOf_of_tells fileTells_quiet]
  decide +kernel

theorem names_quiet : quiet.names = ["DEBUG".toList, "HOME".toList, "log_level".toList,
    "DEBUG".toList, "log_level".toList, "DEBUG".toList] := by
  rw [names, show entriesOf quiet.adopted = _ from entriesOf_of_tells fileTells_quiet,
    show entriesOf quiet.environment.file = _ from entriesOf_of_tells fileTells_quiet]
  decide +kernel

theorem spelledOnce_quiet : SpelledOnce quiet.names := by
  intro s
  rw [names_quiet]
  cases s <;> decide +kernel

/-- A switch with a word for neither yes nor no in the environment. -/
def undecided : Startup :=
  { quiet with environment := ⟨.ofList [("DEBUG".toList, "maybe".toList)], none⟩, adopted := none }

/-- A file with a variable that cannot be bound. -/
def unbindable : Startup :=
  { quiet with adopted := some "NAME=\x00".toList }

theorem precedes_debug_quiet :
    Precedes quiet.environment.bindings quietEnvironment.bindings quietEntries.flatten
      quietEntries.flatten .debug "ON".toList :=
  @Precedes.environment _ _ _ _ _ "DEBUG".toList _ (by decide +kernel) (by decide +kernel)

theorem precedes_logLevel_quiet :
    Precedes quiet.environment.bindings quietEnvironment.bindings quietEntries.flatten
      quietEntries.flatten .logLevel "error".toList := by
  refine .adopted (by decide +kernel) ?_
  have hlast : LastGives (lookupBehind quiet.environment.bindings) quietEntries.flatten
      .logLevel _ :=
    @LastGives.entry _ _ _ [] [("DEBUG".toList, some "maybe".toList)] "log_level".toList
      "error".toList rfl (by decide +kernel) (by decide +kernel)
  rwa [substitute_eq_self _ (by decide)] at hlast

theorem unnamed_quiet : ∀ s ∈ [Setting.logFile, .fileLogging], ∀ name ∈ quiet.names,
    lower name ≠ s.name := by
  rw [names_quiet]
  decide +kernel

theorem spelledOnce_singleton (name : Text) : SpelledOnce [name] := by
  intro s first hfirst second hsecond _ _
  rw [List.mem_singleton.1 hfirst, List.mem_singleton.1 hsecond]

theorem fileTells_unbindable : FileTells unbindable.adopted [("NAME".toList, some ['\x00'])] :=
  @FileTells.lines "NAME=\x00".toList [_]
    (.cons (@tells_plain "NAME".toList ['\x00'] (by decide) (by decide)) .nil)

/-- While debugging the level is that of debug events, and no file is logged to unless that is on. -/
theorem startLogging_of_debug {settings : Settings} (hdebug : settings.debug = true)
    (hlogging : settings.fileLogging = false) (running : Bool)
    (opening : Text → Except Fault Unit) : settings.startLogging running opening = .ok () := by
  cases running with
  | true => rfl
  | false =>
    simp [startLogging, effectiveFile?, logSetup, hdebug, hlogging, LogSetup.effectiveLevel,
      LogSetup.checkLevel, pure, Except.pure, bind, Except.bind]

/-- The switch is on as the environment has it, and the word for it in the file does not matter. -/
theorem load_precedence_quiet :
    (SpelledOnce quiet.names ∧ FileTells quiet.adopted quietEntries.flatten ∧
      ∃ settings, quiet.load = .ok settings ∧ settings.value .debug = .bool true ∧
        settings.value .logLevel = .text "error".toList ∧ settings.value .logFile = .null) ∧
    (∃ names, undecided.load = .error (.invalidFields names) ∧ "debug".toList ∈ names) ∧
    ∃ f, unbindable.load = .error f := by
  refine ⟨⟨spelledOnce_quiet, fileTells_quiet, ?_⟩, ?_, ?_⟩
  · obtain ⟨hadopted, hfile, -, -, hloads⟩ := load_precedence quiet
    obtain ⟨-, hfails, -, hsettings, hordered, hunnamed, -⟩ := hloads _ enlarged_quiet
    rw [hadopted _ fileTells_quiet, hfile _ fileTells_quiet] at hordered
    have hon := hordered spelledOnce_quiet _ _ precedes_debug_quiet
    have hlevel := hordered spelledOnce_quiet _ _ precedes_logLevel_quiet
    have hungiven : ∀ s ∈ [Setting.logFile, .fileLogging], ∀ t,
        ¬Gives quietEnvironment.bindings (entriesOf quietEnvironment.file) s t :=
      fun s hs => hunnamed s (unnamed_quiet s hs)
    cases hload : quiet.load with
    | ok settings =>
      have hvalues := hsettings settings hload
      exact ⟨settings, rfl, (hvalues .debug).1 _ hon, (hvalues .logLevel).1 _ hlevel,
        (hvalues .logFile).2 (hungiven .logFile (by decide))⟩
    | error f =>
      rcases hfails.1 ⟨f, hload⟩ with ⟨s, hs, t, ht, hword⟩ | ⟨settings, hvalues, g, hg⟩
      · rcases List.mem_pair.1 hs with rfl | rfl
        · obtain rfl := ht.unique hon
          exact absurd (by decide) hword
        · exact absurd ht (hungiven .fileLogging (by decide) t)
      · have hdebug : Value.bool settings.debug = .bool true := (hvalues .debug).1 _ hon
        have hlogging : Value.bool settings.fileLogging = .bool false :=
          (hvalues .fileLogging).2 (hungiven .fileLogging (by decide))
        rw [startLogging_of_debug (Value.bool.inj hdebug) (Value.bool.inj hlogging)] at hg
        cases hg
  · obtain ⟨-, -, -, -, hloads⟩ := load_precedence undecided
    obtain ⟨-, -, hreported, -, hordered, -⟩ := hloads undecided.environment rfl
    have hmaybe := hordered (spelledOnce_singleton "DEBUG".toList) .debug "maybe".toList
      (@Precedes.environment _ _ _ _ _ "DEBUG".toList _ (by decide +kernel) (by decide +kernel))
    have hwrong : undecided.environment.Miswords .debug := ⟨_, hmaybe, by decide⟩
    obtain ⟨names, hnames, hmem⟩ := hreported ⟨.debug, by decide, hwrong⟩
    exact ⟨names, hnames, (hmem _).2 ⟨.debug, by decide, by decide, hwrong⟩⟩
  · obtain ⟨hadopted, -, -, hfails, -⟩ := load_precedence unbindable
    obtain ⟨f, hf⟩ : ∃ f, unbindable.enlarged = .error f := by
      rw [enlarged_eq, hadopted _ fileTells_unbindable]
      exact exists_eq_error_of_toOption (by decide +kernel)
    exact ⟨f, hfails f hf⟩

/-! ## Where the file is not just behind the environment -/

/-- What a setting is given where a file counts only for what the environment does not have, by its
last line for it. -/
def GivesPlainly (u : Startup) : Setting → Text → Prop :=
  Precedes u.environment.bindings u.environment.bindings [] (entriesOf u.environment.file)

/-- Nothing else decides what is loaded, and loading fails just where one of the two switches is
given what is no word for it. -/
structure PrecedesPlainly (u : Startup) : Prop where
  fails_iff : (∃ f, u.load = .error f) ↔ ∃ s ∈ switches, ∃ t, u.GivesPlainly s t ∧ ¬IsSwitchWord t
  follows : ∀ settings, u.load = .ok settings → Follows u.GivesPlainly settings

/-- A level that goes by the name of a form in which events are written. -/
def misnamed : Startup :=
  { quiet with
    environment := ⟨.ofList [("LOG_LEVEL".toList, "basic_format".toList)], none⟩, adopted := none }

/-- A switch in one spelling in the environment, and in another one in the file that is adopted and
read. -/
def respelled : Startup :=
  { quiet with
    environment := ⟨.ofList [("Debug".toList, "1".toList)], some "DEBUG=0".toList⟩
    adopted := some "DEBUG=0".toList }

/-- A file whose first and last lines for a switch have one spelling, and the line between them has
another one. -/
def interleaved : Startup :=
  { quiet with
    environment := ⟨∅, some "debug=1\nDEBUG=0\ndebug=1".toList⟩, adopted := none }

def interleavedEntries : List (List Entry) :=
  [[("debug".toList, some "1".toList)], [("DEBUG".toList, some "0".toList)],
    [("debug".toList, some "1".toList)]]

theorem fileTells_respelled : FileTells respelled.adopted [("DEBUG".toList, some "0".toList)] :=
  @FileTells.lines "DEBUG=0".toList [_]
    (.cons (@tells_plain "DEBUG".toList "0".toList (by decide) (by decide)) .nil)

theorem fileTells_interleaved :
    FileTells interleaved.environment.file interleavedEntries.flatten := by
  have hon : Tells "debug=1".toList [("debug".toList, some "1".toList)] :=
    @tells_plain "debug".toList "1".toList (by decide) (by decide)
  have hoff : Tells "DEBUG=0".toList [("DEBUG".toList, some "0".toList)] :=
    @tells_plain "DEBUG".toList "0".toList (by decide) (by decide)
  exact .lines (.cons hon (.cons hoff (.cons hon .nil)))

theorem not_precedesPlainly_misnamed : ¬misnamed.PrecedesPlainly := by
  rintro ⟨hfails, -⟩
  have hload : ∃ f, misnamed.load = .error f := exists_eq_error_of_toOption (by decide +kernel)
  have hother : ∀ s ∈ switches, ∀ name ∈ misnamed.environment.bindings.keys,
      lower name ≠ s.name := by decide +kernel
  obtain ⟨s, hs, t, hgives, -⟩ := hfails.1 hload
  cases hgives with
  | environment hname hbound => exact hother s hs _ (OrderedMap.mem_keys_of_get? hbound) hname
  | adopted _ hlast => exact hlast.ne_nil rfl
  | file _ _ hlast => exact hlast.ne_nil rfl

/-- Standard settings are not what comes of a start where the switch should be on. -/
theorem not_precedesPlainly_of_on {u : Startup} (hload : u.load.toOption = some standard)
    (hon : u.GivesPlainly .debug "1".toList) : ¬u.PrecedesPlainly := by
  rintro ⟨-, hfollows⟩
  have hvalue : Value.bool false = .bool true :=
    ((hfollows _ (eq_ok_of_toOption hload)) .debug).1 _ hon
  cases hvalue

theorem not_precedesPlainly_respelled : ¬respelled.PrecedesPlainly := by
  refine not_precedesPlainly_of_on ?_ ?_
  · rw [load_eq, show entriesOf respelled.adopted = _ from entriesOf_of_tells fileTells_respelled,
      show entriesOf respelled.environment.file = _ from entriesOf_of_tells fileTells_respelled]
    decide +kernel
  · exact @Precedes.environment _ _ _ _ _ "Debug".toList _ (by decide +kernel) (by decide +kernel)

theorem not_precedesPlainly_interleaved : ¬interleaved.PrecedesPlainly := by
  have hentries : entriesOf interleaved.environment.file = interleavedEntries.flatten :=
    entriesOf_of_tells fileTells_interleaved
  refine not_precedesPlainly_of_on ?_ ?_
  · rw [load_eq, hentries]
    decide +kernel
  · rw [GivesPlainly, hentries]
    refine .file (by decide) (by decide) ?_
    have hlast : LastGives (lookup interleaved.environment.bindings) interleavedEntries.flatten
        .debug _ :=
      @LastGives.entry _ _ _ (interleavedEntries.flatten.take 2) [] "debug".toList "1".toList rfl
        (by decide +kernel) (by decide)
    rwa [substitute_eq_self _ (by decide)] at hlast

/-- Logging may be impossible to set up. A file that is adopted puts its spelling of a variable
behind that of the environment. And of two spellings in a file the one that comes up last counts,
not the one of the last line. -/
theorem not_precedesPlainly_misnamed_respelled :
    (SpelledOnce misnamed.environment.bindings.keys ∧ FileTells misnamed.environment.file [] ∧
      ¬misnamed.PrecedesPlainly) ∧
    (SpelledOnce respelled.environment.bindings.keys ∧
      FileTells respelled.environment.file [("DEBUG".toList, some "0".toList)] ∧
      ¬respelled.PrecedesPlainly) ∧
    SpelledOnce interleaved.environment.bindings.keys ∧
      FileTells interleaved.environment.file interleavedEntries.flatten ∧
      ¬interleaved.PrecedesPlainly :=
  ⟨⟨spelledOnce_singleton "LOG_LEVEL".toList, .absent, not_precedesPlainly_misnamed⟩,
    ⟨spelledOnce_singleton "Debug".toList, fileTells_respelled, not_precedesPlainly_respelled⟩,
    fun _ _ hname => (List.not_mem_nil hname).elim, fileTells_interleaved,
    not_precedesPlainly_interleaved⟩

end Startup

end VerbDoc.Settings
