import VerbDoc.Proofs.OrderedMap
import VerbDoc.Proofs.Settings.FileLines
import VerbDoc.Settings.Environment

/-!
# Which text a setting is given

A variable gives a setting whose name it has in whatever case. Of several such variables of the
environment the last one counts, and those of the file only where the environment has none. Main
statements: which text that is, and that the defaults which are read from the environment by rules
of their own never count, since where the environment has the variable for one the setting is given.
-/
namespace VerbDoc.Settings

open Text

namespace Environment

/-! ## The last variable for a setting -/

variable {s : Setting} {t : Text}

/-- The last variable for a setting is bound to this text. -/
def LastBound (bindings : OrderedMap Text Text) (s : Setting) (t : Text) : Prop :=
  ∃ early name late, bindings.entries = early ++ (name, t) :: late ∧ lower name = s.name ∧
    ∀ other ∈ late, lower other.1 ≠ s.name

theorem lastNamed?_eq_some_iff {bindings : OrderedMap Text Text} :
    lastNamed? bindings.entries s = some t ↔ LastBound bindings s t := by
  rw [lastNamed?, Option.map_eq_some_iff]
  simp only [List.find?_eq_some_iff_append, beq_iff_eq, LastBound]
  constructor
  · rintro ⟨⟨name, _⟩, ⟨hname, late, early, hsplit, hlate⟩, rfl⟩
    refine ⟨early.reverse, name, late.reverse, ?_, hname, ?_⟩
    · rw [← List.reverse_reverse bindings.entries, hsplit]
      simp
    · intro other hother
      simpa using hlate other (List.mem_reverse.1 hother)
  · rintro ⟨early, name, late, hsplit, hname, hlate⟩
    refine ⟨(name, t), ⟨hname, late.reverse, early.reverse, by simp [hsplit], ?_⟩, rfl⟩
    intro other hother
    simpa using hlate other (List.mem_reverse.1 hother)

/-- The only variable for a setting is the last one. -/
theorem lastBound_of_only {bindings : OrderedMap Text Text} {name : Text}
    (hbound : bindings.get? name = some t) (hname : lower name = s.name)
    (honly : ∀ other ∈ bindings.keys, lower other = s.name → other = name) :
    LastBound bindings s t := by
  obtain ⟨early, late, hsplit⟩ := List.append_of_mem (OrderedMap.mem_of_find hbound)
  have hnodup : (bindings.entries.map Prod.fst).Nodup := bindings.nodup_keys
  rw [hsplit, List.map_append, List.map_cons, List.nodup_append] at hnodup
  refine ⟨early, name, late, hsplit, hname, ?_⟩
  intro other hother hspelled
  have hkey : other.1 ∈ bindings.keys := by
    rw [OrderedMap.keys, hsplit]
    exact List.mem_map_of_mem (by simp [hother])
  have hagain : name ∈ late.map Prod.fst := by
    rw [← honly other.1 hkey hspelled]
    exact List.mem_map_of_mem hother
  exact (List.nodup_cons.1 hnodup.2.1).1 hagain

/-- A name goes by that of the setting, in whatever case. -/
def spells (s : Setting) (name : Text) : Bool := lower name == s.name

def lastSpelling? (names : List Text) (s : Setting) : Option Text := names.reverse.find? (spells s)

theorem lastNamed?_eq {υ : Type} (m : OrderedMap Text υ) (s : Setting) :
    lastNamed? m.entries s = (lastSpelling? m.keys s).bind m.get? := by
  have hkeys : m.keys.reverse.find? (spells s) =
      (m.entries.reverse.find? fun e => lower e.1 == s.name).map Prod.fst := by
    rw [OrderedMap.keys, ← List.map_reverse, List.find?_map]
    rfl
  rw [lastSpelling?, hkeys, lastNamed?]
  cases hfound : m.entries.reverse.find? fun e => lower e.1 == s.name with
  | none => rfl
  | some e =>
    have hmem : e ∈ m.entries := List.mem_reverse.1 (List.mem_of_find?_eq_some hfound)
    exact (OrderedMap.find_eq_of_mem m.nodup_keys hmem).symm

theorem spells_iff {name : Text} : spells s name = true ↔ lower name = s.name := beq_iff_eq

theorem of_lastSpelling? {names : List Text} {name : Text}
    (h : lastSpelling? names s = some name) : name ∈ names ∧ lower name = s.name :=
  ⟨List.mem_reverse.1 (List.mem_of_find?_eq_some h), spells_iff.1 (List.find?_some h)⟩

theorem lastSpelling?_eq_none_iff {names : List Text} :
    lastSpelling? names s = none ↔ ∀ name ∈ names, lower name ≠ s.name := by
  rw [lastSpelling?, List.find?_eq_none]
  simp [spells]

/-! ## The file -/

open EnvFile

variable {look : Variables → Text → Option Text} {bindings : OrderedMap Text Text}
  {es : List Entry} {name : Text}

/-- Of the spellings of a setting's name, this one is the last to come up. -/
def LatestSpelling (names : List Text) (s : Setting) (name : Text) : Prop :=
  lower name = s.name ∧ ∃ early late, names = early ++ name :: late ∧ name ∉ early ∧
    ∀ other ∈ late, lower other = s.name → other = name ∨ other ∈ early

theorem keys_variablesOf (look : Variables → Text → Option Text) (es : List Entry) :
    (variablesOf look es).keys = OrderedMap.distinct (es.map Prod.fst) := by
  have hkeys : ∀ known : Variables, (es.foldl (enter look) known).keys =
      (es.map Prod.fst).foldl OrderedMap.addKey known.keys := by
    induction es with
    | nil => exact fun _ => rfl
    | cons e rest ih =>
      intro known
      rw [List.foldl_cons, ih, enter, OrderedMap.keys_insert_eq_addKey]
      rfl
  exact (hkeys ∅).trans (OrderedMap.foldl_addKey_nil _)

theorem lastSpelling?_append_cons {first rest : List Text} (hrest : name ∉ rest) :
    lastSpelling? (first ++ name :: rest) s = some name ↔
      lower name = s.name ∧ ∀ other ∈ rest, lower other ≠ s.name := by
  have hsplit : lastSpelling? (first ++ name :: rest) s =
      (lastSpelling? rest s).or
        (if spells s name then some name else lastSpelling? first s) := by
    simp only [lastSpelling?, List.reverse_append, List.reverse_cons, List.append_assoc,
      List.find?_append, List.singleton_append, List.find?_cons]
    cases spells s name <;> rfl
  rw [hsplit, ← lastSpelling?_eq_none_iff]
  cases hfound : lastSpelling? rest s with
  | some other =>
    have hother : other ≠ name := fun heq => hrest (heq ▸ (of_lastSpelling? hfound).1)
    simp [hother]
  | none =>
    by_cases hname : lower name = s.name
    · simp [spells_iff.2 hname, hname]
    · have hspells : spells s name = false := by simpa [spells] using hname
      simp only [hspells, Option.none_or, hname, false_and, iff_false]
      exact fun hfirst => hname (of_lastSpelling? hfirst).2

theorem lastSpelling?_distinct {early late : List Text} (hnew : name ∉ early) :
    lastSpelling? (OrderedMap.distinct (early ++ name :: late)) s = some name ↔
      lower name = s.name ∧
        ∀ other ∈ late, lower other = s.name → other = name ∨ other ∈ early := by
  have hdistinct : OrderedMap.distinct (early ++ name :: late) =
      OrderedMap.distinct early ++
        name :: (OrderedMap.distinct (late.filter (· ≠ name))).filter (· ∉ early) := by
    rw [OrderedMap.distinct_append fun k => decide_eq_true_iff (p := k ∉ early),
      OrderedMap.distinct_cons, List.filter_cons_of_pos (by simpa using hnew)]
  rw [hdistinct, lastSpelling?_append_cons (by simp)]
  simp only [List.mem_filter, OrderedMap.mem_distinct, decide_eq_true_eq, and_imp]
  refine and_congr_right fun _ => forall₂_congr fun other _ => ?_
  by_cases hsame : other = name <;> by_cases hearly : other ∈ early <;> simp [hsame, hearly]

theorem latestSpelling_iff {names : List Text} :
    lastSpelling? (OrderedMap.distinct names) s = some name ↔ LatestSpelling names s name := by
  constructor
  · intro hfound
    have hmem := OrderedMap.mem_distinct.1 (of_lastSpelling? hfound).1
    obtain ⟨early, late, rfl, hnew⟩ := List.eq_append_cons_of_mem hmem
    obtain ⟨hname, hlate⟩ := (lastSpelling?_distinct hnew).1 hfound
    exact ⟨hname, early, late, rfl, hnew, hlate⟩
  · rintro ⟨hname, early, late, rfl, hnew, hlate⟩
    exact (lastSpelling?_distinct hnew).2 ⟨hname, hlate⟩

theorem exists_last_of_mem (h : name ∈ es.map Prod.fst) : ∃ before written after,
    es = before ++ (name, written) :: after ∧ name ∉ after.map Prod.fst := by
  induction es with
  | nil => simp at h
  | cons e rest ih =>
    by_cases hrest : name ∈ rest.map Prod.fst
    · obtain ⟨before, written, after, rfl, hafter⟩ := ih hrest
      exact ⟨e :: before, written, after, rfl, hafter⟩
    · rw [List.map_cons, List.mem_cons] at h
      obtain rfl := h.resolve_right hrest
      exact ⟨[], e.2, rest, rfl, hrest⟩

/-- A text is given to a variable by its last entry, with the references in it replaced. -/
theorem get?_variablesOf_iff {value? : Option Text} :
    (variablesOf look es).get? name = some value? ↔
      ∃ before written after, es = before ++ (name, written) :: after ∧
        name ∉ after.map Prod.fst ∧
        value? = written.map (substitute (look (variablesOf look before))) := by
  have hlast : ∀ before (written : Option Text) after, name ∉ after.map Prod.fst →
      (variablesOf look (before ++ (name, written) :: after)).get? name =
        some (written.map (substitute (look (variablesOf look before)))) := by
    intro before written after hafter
    rw [variablesOf, List.foldl_append, List.foldl_cons, get?_foldl_enter_of_not_mem hafter,
      get?_enter, if_pos rfl]
    rfl
  constructor
  · intro hget
    have hmem : name ∈ es.map Prod.fst := by
      rw [← OrderedMap.mem_distinct, ← keys_variablesOf look]
      exact OrderedMap.mem_keys_of_get? hget
    obtain ⟨before, written, after, rfl, hafter⟩ := exists_last_of_mem hmem
    rw [hlast before written after hafter] at hget
    exact ⟨before, written, after, rfl, hafter, (Option.some.inj hget).symm⟩
  · rintro ⟨before, written, after, rfl, hafter, rfl⟩
    exact hlast before written after hafter

/-! ## The text that a setting is given -/

/-- What entries of a file give a setting: the text of the last entry in the spelling that was the
last to come up, with the references in it replaced by what stands before it. -/
inductive FileGives (bindings : OrderedMap Text Text) (es : List Entry) (s : Setting) :
    Text → Prop where
  | entry {before after : List Entry} {name written : Text}
    (hspelling : LatestSpelling (es.map Prod.fst) s name)
    (hsplit : es = before ++ (name, some written) :: after) (hlast : name ∉ after.map Prod.fst) :
    FileGives bindings es s
      (substitute (lookup bindings (variablesOf (lookup bindings) before)) written)

/-- What a setting is given: the text of the last variable for it in the environment, and where
there is none that of the file. -/
inductive Gives (bindings : OrderedMap Text Text) (es : List Entry) (s : Setting) :
    Text → Prop where
  | environment {t : Text} (hbound : LastBound bindings s t) : Gives bindings es s t
  | file {t : Text} (hunbound : ∀ name ∈ bindings.keys, lower name ≠ s.name)
    (hfile : FileGives bindings es s t) : Gives bindings es s t

theorem FileGives.exists_name (h : FileGives bindings es s t) :
    ∃ name ∈ es.map Prod.fst, lower name = s.name := by
  obtain ⟨hspelling, hsplit, -⟩ := h
  exact ⟨_, by simp [hsplit], hspelling.1⟩

/-- Only what goes by its name gives a setting. -/
theorem Gives.exists_name (h : Gives bindings es s t) :
    ∃ name ∈ bindings.keys ++ es.map Prod.fst, lower name = s.name := by
  cases h with
  | environment hbound =>
    obtain ⟨early, name, late, hsplit, hname, -⟩ := hbound
    exact ⟨name, List.mem_append_left _ (by simp [OrderedMap.keys, hsplit]), hname⟩
  | file _ hfile =>
    obtain ⟨name, hmem, hname⟩ := hfile.exists_name
    exact ⟨name, List.mem_append_right _ hmem, hname⟩

/-- The entries of a file, if it is there. -/
def entriesOf (file : Option Text) : List Entry := file.elim [] fun file => entries (content file)

/-- The text that a setting is given by variables and by the entries of a file. -/
def givenBy? (bindings : OrderedMap Text Text) (es : List Entry) (s : Setting) : Option Text :=
  (lastNamed? bindings.entries s).or
    ((lastNamed? (variablesOf (lookup bindings) es).entries s).bind id)

theorem givenText?_eq (e : Environment) (s : Setting) :
    e.givenText? s = givenBy? e.bindings (entriesOf e.file) s := by
  unfold givenText? givenBy? entriesOf
  cases lastNamed? e.bindings.entries s <;> cases e.file <;> rfl

theorem fileGives_iff :
    ((lastNamed? (variablesOf (lookup bindings) es).entries s).bind id) = some t ↔
      FileGives bindings es s t := by
  rw [lastNamed?_eq, keys_variablesOf]
  simp only [Option.bind_eq_some_iff, id, latestSpelling_iff]
  constructor
  · rintro ⟨value?, ⟨name, hspelling, hget⟩, rfl⟩
    obtain ⟨before, written, after, hsplit, hlast, hvalue⟩ := get?_variablesOf_iff.1 hget
    cases written with
    | none => cases hvalue
    | some written =>
      obtain rfl := Option.some.inj hvalue
      exact .entry hspelling hsplit hlast
  · rintro ⟨hspelling, hsplit, hlast⟩
    exact ⟨_, ⟨_, hspelling, get?_variablesOf_iff.2 ⟨_, _, _, hsplit, hlast, rfl⟩⟩, rfl⟩

/-- The last entry for a setting gives it, unless its spelling came up before and another one has
come up since. -/
theorem fileGives_last {before after : List Entry} {written : Text} (hname : lower name = s.name)
    (hbefore : (∀ e ∈ before, lower e.1 = s.name → e.1 = name) ∨ name ∉ before.map Prod.fst)
    (hafter : ∀ e ∈ after, lower e.1 ≠ s.name) :
    FileGives bindings (before ++ (name, some written) :: after) s
      (substitute (lookup bindings (variablesOf (lookup bindings) before)) written) := by
  have hnone : ∀ other ∈ after.map Prod.fst, lower other ≠ s.name := by
    intro other hother
    obtain ⟨e, he, rfl⟩ := List.mem_map.1 hother
    exact hafter e he
  refine .entry ⟨hname, ?_⟩ rfl fun hmem => hnone name hmem hname
  rw [List.map_append, List.map_cons]
  by_cases hnew : name ∉ before.map Prod.fst
  · exact ⟨_, _, rfl, hnew, fun other hother hspelled => absurd hspelled (hnone other hother)⟩
  · -- The spelling came up before, and so did no other one.
    have halike := hbefore.resolve_right hnew
    obtain ⟨early, late, hsplit, hfirst⟩ := List.eq_append_cons_of_mem (not_not.1 hnew)
    refine ⟨early, late ++ name :: after.map Prod.fst, by simp [hsplit], hfirst, ?_⟩
    intro other hother hspelled
    rcases List.mem_append.1 hother with hlate | hmore
    · have hmem : other ∈ before.map Prod.fst := by simp [hsplit, hlate]
      obtain ⟨e, he, rfl⟩ := List.mem_map.1 hmem
      exact .inl (halike e he hspelled)
    · rcases List.mem_cons.1 hmore with rfl | hmore
      · exact .inl rfl
      · exact absurd hspelled (hnone other hmore)

theorem givenBy?_eq_some_iff : givenBy? bindings es s = some t ↔ Gives bindings es s t := by
  rw [givenBy?]
  cases hfound : lastNamed? bindings.entries s with
  | some u =>
    have hbound := lastNamed?_eq_some_iff.1 hfound
    rw [Option.some_or, Option.some.injEq]
    constructor
    · rintro rfl
      exact .environment hbound
    · rintro (hother | ⟨hunbound, -⟩)
      · exact Option.some.inj (hfound.symm.trans (lastNamed?_eq_some_iff.2 hother))
      · obtain ⟨early, name, late, hsplit, hname, -⟩ := hbound
        exact absurd hname (hunbound name (by simp [OrderedMap.keys, hsplit]))
  | none =>
    rw [Option.none_or, fileGives_iff]
    constructor
    · refine .file fun name hmem hname => ?_
      rw [lastNamed?, Option.map_eq_none_iff, List.find?_eq_none] at hfound
      obtain ⟨v, hv, rfl⟩ := List.mem_map.1 hmem
      exact hfound v (List.mem_reverse.2 hv) (beq_iff_eq.2 hname)
    · rintro (hbound | ⟨-, hfile⟩)
      · rw [lastNamed?_eq_some_iff.2 hbound] at hfound
        cases hfound
      · exact hfile

/-- A setting is given one text at most. -/
theorem Gives.unique {u : Text} (ht : Gives bindings es s t) (hu : Gives bindings es s u) :
    t = u :=
  Option.some.inj ((givenBy?_eq_some_iff.2 ht).symm.trans (givenBy?_eq_some_iff.2 hu))

/-! ## Defaults -/

/-- A setting that has a default from the environment is given there. -/
theorem namedExactly?_eq_none {e : Environment} (h : e.givenText? s = none) :
    e.namedExactly? s = none := by
  have hname : lower (upper s.name) = s.name := by
    cases s <;> decide +kernel
  rw [namedExactly?, OrderedMap.get?_eq_none_iff]
  intro hmem
  rw [givenText?, lastNamed?_eq] at h
  cases hfound : lastSpelling? e.bindings.keys s with
  | none => exact lastSpelling?_eq_none_iff.1 hfound _ hmem hname
  | some name =>
    obtain ⟨t, ht⟩ := OrderedMap.exists_get?_of_mem_keys (of_lastSpelling? hfound).1
    rw [hfound, Option.bind_some, ht] at h
    cases h

/-- What the defaults have from the environment is never used. -/
theorem load_eq (e : Environment) : e.load = build e.given standard := by
  have hchoose : ∀ {α : Type} (s : Setting) (read : Value → Option α) (default other : α),
      (e.namedExactly? s = none → default = other) →
      choose e.given s read default = choose e.given s read other := by
    intro α s read default other hsame
    unfold choose
    cases hgiven : e.given s with
    | some v => rfl
    | none => rw [hsame (namedExactly?_eq_none (Option.map_eq_none_iff.1 hgiven))]
  have htext : ∀ (s : Setting) (default : Text),
      choose e.given s Value.asText? ((e.namedExactly? s).getD default) =
        choose e.given s Value.asText? default :=
    fun s default => hchoose s _ _ _ fun hnone => by rw [hnone, Option.getD_none]
  have hswitch : ∀ s : Setting, choose e.given s Value.asBool? (e.declaredSwitch s) =
      choose e.given s Value.asBool? false :=
    fun s => hchoose s _ _ _ fun hnone => by rw [declaredSwitch, hnone]
  have hfile : choose e.given .logFile Value.asOptionalText? (e.namedExactly? .logFile) =
      choose e.given .logFile Value.asOptionalText? none := hchoose _ _ _ _ id
  simp only [load, build, declared, htext, hswitch, hfile]
  rfl

end Environment
end VerbDoc.Settings
