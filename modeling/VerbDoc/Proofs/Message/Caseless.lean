import VerbDoc.Proofs.Message.Replacing

/-!
# Headers without case

A response keeps its headers under the names as they were spelled. As long as no two of these agree
in lower case, the headers are a table under lower-case names, whose entries have a spelling and
values. Main statements: each change of a response is one of its table and keeps the names apart, so
that after any run of changes the response is what the table has come to, and answers from it.
-/
namespace VerbDoc

/-! ## The table -/

/-- Header entries under the lower case of their names, each with its name as it is spelled and its
values. -/
abbrev HeaderTable := OrderedMap Text (Text × List Value)

namespace HeaderTable

/-- The entry of a name goes, and a new one with the one value comes last. -/
def replace (t : HeaderTable) (name : Text) (value : Value) : HeaderTable :=
  (t.erase (Text.lower name)).insert (Text.lower name) (name, [value])

/-- A name has one more value, in its entry or in a new one. -/
def add (t : HeaderTable) (name : Text) (value : Value) : HeaderTable :=
  match t.get? (Text.lower name) with
  | some (spelling, values) => t.insert (Text.lower name) (spelling, values ++ [value])
  | none => t.insert (Text.lower name) (name, [value])

/-- The values of a name, none without an entry. -/
def values (t : HeaderTable) (name : Text) : List Value :=
  ((t.get? (Text.lower name)).map Prod.snd).getD []

def line (t : HeaderTable) (name : Text) : Except Fault Text :=
  match (t.values name).mapM Value.asText? with
  | some texts => .ok (Text.listed texts)
  | none => .error .wrongType

end HeaderTable

/-- A change of a response, which is made in a copy. -/
inductive Response.Change where
  | setHeader (name : Text) (value : Value)
  | addHeader (name : Text) (value : Value)
  | setStatus (code reason : Value)

/-- A response with its headers in a table. -/
structure CaselessResponse where
  headers : HeaderTable
  statusCode : Value
  reasonPhrase : Value

def CaselessResponse.follow (c : CaselessResponse) : Response.Change → CaselessResponse
  | .setHeader name value => { c with headers := c.headers.replace name value }
  | .addHeader name value => { c with headers := c.headers.add name value }
  | .setStatus code reason => { c with statusCode := code, reasonPhrase := reason }

namespace Message

def perform (m : Message) : Response.Change → Except Fault Message
  | .setHeader name value => m.setHeader (.text name) value
  | .addHeader name value => m.addHeader (.text name) value
  | .setStatus code reason => m.setStatus code reason

def performAll (m : Message) (changes : List Response.Change) : Except Fault Message :=
  changes.foldlM perform m

/-- What is asked about the headers of a message is answered from a table. -/
structure AnswersFrom (m : Message) (t : HeaderTable) : Prop where
  has : ∀ name, m.hasHeader (.text name) = .ok (t.contains (Text.lower name))
  values : ∀ name, m.headerValues (.text name) = .ok (t.values name)
  line : ∀ name, m.headerLine (.text name) = t.line name

end Message

/-! ## Headers whose names differ in lower case -/

namespace Headers

/-- No two names agree in lower case. -/
def IsUnambiguous (headers : Headers) : Prop := (headers.keys.map Text.lower).Nodup

def table (headers : Headers) (h : headers.IsUnambiguous) : HeaderTable where
  entries := headers.entries.map fun e => (Text.lower e.1, e)
  nodup_keys := by
    have hkeys : (headers.entries.map fun e => (Text.lower e.1, e)).map Prod.fst =
        headers.keys.map Text.lower := by
      simp [OrderedMap.keys, Function.comp_def]
    rw [hkeys]
    exact h

/-- Nothing is lost with the case. -/
theorem eq_of_table_eq {a b : Headers} {ha : a.IsUnambiguous} {hb : b.IsUnambiguous}
    (h : a.table ha = b.table hb) : a = b := by
  apply OrderedMap.ext
  have hentries := congrArg (fun t => t.entries.map Prod.snd) h
  simpa [table, Function.comp_def] using hentries

variable {headers : Headers}

/-- A name has the entry that answers for it. -/
theorem get?_table (h : headers.IsUnambiguous) (name : Text) :
    (headers.table h).get? (Text.lower name) = (headers.under name).head? := by
  have hfind := OrderedMap.find_map_key (fun e : Text × List Value => Text.lower e.1)
    (Text.lower name) headers.entries
  have htest : (fun e : Text × List Value => Text.lower e.1 == Text.lower name) =
      fun e => decide (Text.lower e.1 = Text.lower name) := by
    funext e
    rw [Bool.eq_iff_iff, beq_iff_eq, decide_eq_true_iff]
  rw [under, List.head?_filter, htest]
  exact hfind

theorem contains_table (h : headers.IsUnambiguous) (name : Text) :
    (headers.table h).contains (Text.lower name) = headers.has name := by
  rw [OrderedMap.contains, get?_table, has, stored?_eq_head?, Option.isSome_map]

theorem values_table (h : headers.IsUnambiguous) (name : Text) :
    (headers.table h).values name = headers.values name := by
  rw [HeaderTable.values, get?_table, values_eq_head?]

theorem answersFrom_table (r : Response) (h : r.headers.IsUnambiguous) :
    (Message.response r).AnswersFrom (r.headers.table h) where
  has name := congrArg Except.ok (contains_table h name).symm
  values name := congrArg Except.ok (values_table h name).symm
  line name := by
    have hline : (r.headers.table h).line name = r.headers.line name := by
      rw [HeaderTable.line, values_table]
      rfl
    exact hline.symm

/-- A stored name is known by its lower case. -/
theorem eq_of_lower_eq (h : headers.IsUnambiguous) {a b : Text} (ha : a ∈ headers.keys)
    (hb : b ∈ headers.keys) (hab : Text.lower a = Text.lower b) : a = b := by
  have hnodup : ((headers.keys.map fun key => (Text.lower key, key)).map Prod.fst).Nodup := by
    rw [List.map_map]
    exact h
  have hfound : ∀ key ∈ headers.keys, OrderedMap.find (Text.lower key)
      (headers.keys.map fun key => (Text.lower key, key)) = some key := fun key hkey =>
    OrderedMap.find_eq_of_mem hnodup
      (List.mem_map_of_mem (f := fun key => (Text.lower key, key)) hkey)
  have hsame := hfound a ha
  rw [hab, hfound b hb] at hsame
  exact (Option.some.inj hsame).symm

theorem eq_stored_iff (h : headers.IsUnambiguous) {name key : Text}
    (hstored : headers.stored? name = some key) {e : Text × List Value} (he : e ∈ headers.entries) :
    e.1 = key ↔ Text.lower e.1 = Text.lower name := by
  rw [← lower_of_stored? hstored]
  refine ⟨fun heq => congrArg Text.lower heq, ?_⟩
  exact eq_of_lower_eq h (List.mem_map_of_mem he) (mem_keys_of_stored? hstored)

/-- One entry at most goes by a name. -/
theorem eq_of_mem_under (h : headers.IsUnambiguous) {name : Text} {e e' : Text × List Value}
    (he : e ∈ headers.under name) (he' : e' ∈ headers.under name) : e' = e := by
  obtain ⟨hmem, hlower⟩ := mem_entries_of_mem_under he
  obtain ⟨hmem', hlower'⟩ := mem_entries_of_mem_under he'
  have hkey : e'.1 = e.1 :=
    eq_of_lower_eq h (List.mem_map_of_mem hmem') (List.mem_map_of_mem hmem)
      (hlower'.trans hlower.symm)
  have hget := OrderedMap.find_eq_of_mem headers.nodup_keys hmem'
  rw [hkey, OrderedMap.find_eq_of_mem headers.nodup_keys hmem] at hget
  exact Prod.ext hkey (Option.some.inj hget).symm

/-- Without an entry for a name no stored name agrees with it. -/
theorem lower_ne_of_stored?_eq_none {name : Text} (hstored : headers.stored? name = none)
    {e : Text × List Value} (he : e ∈ headers.entries) : Text.lower e.1 ≠ Text.lower name := by
  have hnone := List.find?_eq_none.1 hstored e.1 (List.mem_map_of_mem he)
  simpa using hnone

theorem not_mem_map_fst {name : Text} {es : List (Text × List Value)}
    (h : ∀ e ∈ es, Text.lower e.1 ≠ Text.lower name) : name ∉ es.map Prod.fst := by
  intro hmem
  obtain ⟨e, he, rfl⟩ := List.mem_map.1 hmem
  exact h e he rfl

/-! ## One change -/

/-- Replacing drops the entry of the name and puts a new one last. -/
theorem entries_replace (h : headers.IsUnambiguous) (name : Text) (value : Value) :
    (headers.replace name value).entries =
      (headers.entries.filter fun e => Text.lower e.1 ≠ Text.lower name) ++ [(name, [value])] := by
  have hothers : headers.others name =
      headers.entries.filter fun e => Text.lower e.1 ≠ Text.lower name := by
    unfold others
    cases hstored : headers.stored? name with
    | some key =>
      apply List.filter_congr
      intro e he
      rw [decide_eq_decide, ne_eq, eq_stored_iff h hstored he]
    | none =>
      refine (List.filter_eq_self.2 ?_).symm
      intro e he
      simpa using lower_ne_of_stored?_eq_none hstored he
  have hnew : name ∉ (headers.others name).map Prod.fst := by
    rw [hothers]
    apply not_mem_map_fst
    intro e he
    simpa using (List.mem_filter.1 he).2
  rw [entries_replace_eq_put, OrderedMap.put_of_not_mem hnew, hothers]

/-- Adding a value to a header that is there changes the values of its entry and nothing else. -/
theorem entries_add_of_has (h : headers.IsUnambiguous) {name : Text}
    (hhas : headers.has name = true)
    (value : Value) :
    (headers.add name value).entries = headers.entries.map fun e =>
      if Text.lower e.1 = Text.lower name then (e.1, e.2 ++ [value]) else e := by
  obtain ⟨key, hstored⟩ := Option.isSome_iff_exists.1 hhas
  have hmem := mem_keys_of_stored? hstored
  simp only [add, hstored]
  refine (OrderedMap.put_of_mem headers.nodup_keys hmem _).trans ?_
  apply List.map_congr_left
  intro e he
  by_cases hkey : e.1 = key
  · have hget : headers.get? key = some e.2 :=
      hkey ▸ OrderedMap.find_eq_of_mem headers.nodup_keys he
    rw [if_pos hkey, if_pos ((eq_stored_iff h hstored he).1 hkey), hget, hkey]
    rfl
  · rw [if_neg hkey, if_neg fun hsame => hkey ((eq_stored_iff h hstored he).2 hsame)]

/-- Adding a value to a header that is not there puts a new entry last. -/
theorem entries_add_of_not_has {name : Text} (hhas : headers.has name = false) (value : Value) :
    (headers.add name value).entries = headers.entries ++ [(name, [value])] := by
  have hstored : headers.stored? name = none := by simpa [has] using hhas
  have hnew : name ∉ headers.keys :=
    not_mem_map_fst fun e he => lower_ne_of_stored?_eq_none hstored he
  simp only [add, hstored]
  exact OrderedMap.put_of_not_mem hnew [value]

/-- A table that has the entries of some headers keeps their names apart. -/
theorem exists_table_eq {t : HeaderTable}
    (hentries : t.entries = headers.entries.map fun e => (Text.lower e.1, e)) :
    ∃ h : headers.IsUnambiguous, headers.table h = t := by
  have hkeys : t.entries.map Prod.fst = headers.keys.map Text.lower := by
    rw [hentries]
    simp [OrderedMap.keys, Function.comp_def]
  have hnodup : headers.IsUnambiguous := by
    rw [IsUnambiguous, ← hkeys]
    exact t.nodup_keys
  exact ⟨hnodup, OrderedMap.ext hentries.symm⟩

theorem exists_table_replace (h : headers.IsUnambiguous) (name : Text) (value : Value) :
    ∃ hnext : (headers.replace name value).IsUnambiguous,
      (headers.replace name value).table hnext = (headers.table h).replace name value := by
  apply exists_table_eq
  have hothers : ((headers.table h).erase (Text.lower name)).entries =
      (headers.entries.filter fun e => Text.lower e.1 ≠ Text.lower name).map
        fun e => (Text.lower e.1, e) := List.filter_map ..
  have hnew : Text.lower name ∉ ((headers.table h).erase (Text.lower name)).keys := by
    simp [OrderedMap.keys_erase]
  refine (OrderedMap.put_of_not_mem hnew _).trans ?_
  rw [hothers, entries_replace h, List.map_append]
  rfl

theorem exists_table_add (h : headers.IsUnambiguous) (name : Text) (value : Value) :
    ∃ hnext : (headers.add name value).IsUnambiguous,
      (headers.add name value).table hnext = (headers.table h).add name value := by
  apply exists_table_eq
  have hget := get?_table h name
  have hcontains := contains_table h name
  unfold HeaderTable.add
  cases hfirst : (headers.under name).head? with
  | none =>
    rw [hfirst] at hget
    have hhas : headers.has name = false := by rw [← hcontains, OrderedMap.contains, hget]; rfl
    have hnew : Text.lower name ∉ (headers.table h).keys := (OrderedMap.get?_eq_none_iff _ _).1 hget
    rw [hget, entries_add_of_not_has hhas, List.map_append]
    exact OrderedMap.put_of_not_mem hnew _
  | some e =>
    rw [hfirst] at hget
    have hhas : headers.has name = true := by rw [← hcontains, OrderedMap.contains, hget]; rfl
    have hmem : Text.lower name ∈ (headers.table h).keys := by
      rw [← OrderedMap.contains_iff_mem_keys, hcontains, hhas]
    rw [hget, entries_add_of_has h hhas, List.map_map]
    refine (OrderedMap.put_of_mem (headers.table h).nodup_keys hmem _).trans ?_
    rw [table, List.map_map]
    apply List.map_congr_left
    intro e' he'
    by_cases hsame : Text.lower e'.1 = Text.lower name
    · have hunder : e' ∈ headers.under name := by
        rw [under, List.mem_filter]
        exact ⟨he', by simpa using hsame⟩
      obtain rfl := eq_of_mem_under h (List.mem_of_head? hfirst) hunder
      simp [hsame]
    · simp [hsame]

end Headers

/-! ## A run of changes -/

namespace Response

def caseless (r : Response) (h : r.headers.IsUnambiguous) : CaselessResponse :=
  ⟨r.headers.table h, r.statusCode, r.reasonPhrase⟩

theorem eq_of_caseless_eq {r s : Response} {hr : r.headers.IsUnambiguous}
    {hs : s.headers.IsUnambiguous} (heq : r.caseless hr = s.caseless hs) : r = s := by
  obtain ⟨headers, statusCode, reasonPhrase⟩ := r
  obtain ⟨htable, rfl, rfl⟩ := CaselessResponse.mk.inj heq
  obtain rfl := Headers.eq_of_table_eq htable
  rfl

/-- A header that is replaced loses its entry, and a new one comes last. One that has a value added
keeps spelling and place, or comes last as a new entry. All other entries stay as they are, and the
status has nothing to do with any of them. -/
structure ChangesOneEntry (r : Response) : Prop where
  setHeader : ∀ name value, ∃ s : Response,
    (Message.response r).perform (.setHeader name value) = .ok (.response s) ∧
    s.headers.entries =
      (r.headers.entries.filter fun e => Text.lower e.1 ≠ Text.lower name) ++ [(name, [value])] ∧
    s.statusCode = r.statusCode ∧ s.reasonPhrase = r.reasonPhrase
  addHeader : ∀ name value, ∃ s : Response,
    (Message.response r).perform (.addHeader name value) = .ok (.response s) ∧
    s.headers.entries =
      (if r.headers.has name then
        r.headers.entries.map fun e =>
          if Text.lower e.1 = Text.lower name then (e.1, e.2 ++ [value]) else e
      else r.headers.entries ++ [(name, [value])]) ∧
    s.statusCode = r.statusCode ∧ s.reasonPhrase = r.reasonPhrase
  setStatus : ∀ code reason, (Message.response r).perform (.setStatus code reason) =
    .ok (.response { r with statusCode := code, reasonPhrase := reason })
  /-- Of two values in turn for one name the second alone counts. -/
  setHeader_setHeader : ∀ first second value other, Text.lower first = Text.lower second →
    (Message.response r).performAll [.setHeader first value, .setHeader second other] =
      (Message.response r).performAll [.setHeader second other]

variable {r : Response}

theorem setHeader_setHeader (h : r.headers.IsUnambiguous) {first second : Text}
    (hsame : Text.lower first = Text.lower second) (value other : Value) :
    (r.setHeader first value).setHeader second other = r.setHeader second other := by
  obtain ⟨hnext, -⟩ := Headers.exists_table_replace h first value
  have hheaders : (r.headers.replace first value).replace second other =
      r.headers.replace second other := by
    apply OrderedMap.ext
    rw [Headers.entries_replace hnext, Headers.entries_replace h, Headers.entries_replace h,
      List.filter_append, List.filter_filter]
    simp [hsame]
  exact congrArg (fun headers => { r with headers }) hheaders

theorem changesOneEntry (h : r.headers.IsUnambiguous) : r.ChangesOneEntry where
  setHeader name value :=
    ⟨r.setHeader name value, rfl, Headers.entries_replace h name value, rfl, rfl⟩
  addHeader name value := by
    refine ⟨r.addHeader name value, rfl, ?_, rfl, rfl⟩
    cases hhas : r.headers.has name with
    | true => exact Headers.entries_add_of_has h hhas value
    | false => exact Headers.entries_add_of_not_has hhas value
  setStatus _ _ := rfl
  setHeader_setHeader _ _ value other hsame :=
    congrArg (fun s => Except.ok (Message.response s)) (setHeader_setHeader h hsame value other)

/-- A change of a response is one of its table. -/
theorem exists_perform (h : r.headers.IsUnambiguous) (change : Change) :
    ∃ (s : Response) (hs : s.headers.IsUnambiguous),
      (Message.response r).perform change = .ok (.response s) ∧
      s.caseless hs = (r.caseless h).follow change := by
  cases change with
  | setHeader name value =>
    obtain ⟨hs, htable⟩ := Headers.exists_table_replace h name value
    refine ⟨r.setHeader name value, hs, rfl, ?_⟩
    exact congrArg (fun t => CaselessResponse.mk t r.statusCode r.reasonPhrase) htable
  | addHeader name value =>
    obtain ⟨hs, htable⟩ := Headers.exists_table_add h name value
    refine ⟨r.addHeader name value, hs, rfl, ?_⟩
    exact congrArg (fun t => CaselessResponse.mk t r.statusCode r.reasonPhrase) htable
  | setStatus code reason => exact ⟨r.setStatus code reason, h, rfl, rfl⟩

/-- A run of changes is one of the table. -/
theorem exists_performAll (h : r.headers.IsUnambiguous) (changes : List Change) :
    ∃ (s : Response) (hs : s.headers.IsUnambiguous),
      (Message.response r).performAll changes = .ok (.response s) ∧
      s.caseless hs = changes.foldl CaselessResponse.follow (r.caseless h) := by
  induction changes generalizing r with
  | nil => exact ⟨r, h, rfl, rfl⟩
  | cons change rest ih =>
    obtain ⟨next, hnext, hperform, hfollow⟩ := exists_perform h change
    obtain ⟨s, hs, hrest, hfinal⟩ := ih hnext
    refine ⟨s, hs, ?_, ?_⟩
    · rw [Message.performAll, List.foldlM_cons, hperform]
      exact hrest
    · rw [hfinal, hfollow, List.foldl_cons]

end Response

/-- From a response whose header names differ in lower case, a run of changes leads to one of that
kind. It is the one response whose table is what the table of the first has come to, it answers from
that table, and each further change is that of one entry. -/
theorem Message.performAll_caseless {r : Response} (h : r.headers.IsUnambiguous)
    (changes : List Response.Change) :
    ∃ (s : Response) (hs : s.headers.IsUnambiguous),
      (Message.response r).performAll changes = .ok (.response s) ∧
      s.caseless hs = changes.foldl CaselessResponse.follow (r.caseless h) ∧
      (∀ (other : Response) (ho : other.headers.IsUnambiguous),
        other.caseless ho = s.caseless hs → other = s) ∧
      (Message.response s).AnswersFrom (s.caseless hs).headers ∧ s.ChangesOneEntry := by
  obtain ⟨s, hs, hrun, hfinal⟩ := Response.exists_performAll h changes
  exact ⟨s, hs, hrun, hfinal, fun _ _ => Response.eq_of_caseless_eq,
    Headers.answersFrom_table s hs, Response.changesOneEntry hs⟩

def Response.varied : Response where
  headers := .ofList [("Vary".toList, [.text "Accept".toList]), ("X-Id".toList, [.text "1".toList])]
  statusCode := .int 200
  reasonPhrase := .text []

theorem Response.isUnambiguous_varied : varied.headers.IsUnambiguous := by
  rw [Headers.IsUnambiguous]
  decide +kernel

theorem Message.performAll_caseless_varied :
    Response.varied.headers.IsUnambiguous ∧
      ∃ s : Response, (Message.response .varied).performAll
          [.setHeader "VARY".toList (.text "Origin".toList),
            .addHeader "x-id".toList (.text "2".toList)] = .ok (.response s) ∧
        s.headers.keys = ["X-Id".toList, "VARY".toList] ∧ s.ChangesOneEntry := by
  obtain ⟨s, hs, hrun, hfinal, -, -, hchanges⟩ := performAll_caseless Response.isUnambiguous_varied
    [.setHeader "VARY".toList (.text "Origin".toList), .addHeader "x-id".toList (.text "2".toList)]
  refine ⟨Response.isUnambiguous_varied, s, hrun, ?_, hchanges⟩
  have hspelled := congrArg (fun c => c.headers.entries.map fun e => e.2.1) hfinal
  have hkeys : (s.caseless hs).headers.entries.map (fun e => e.2.1) = s.headers.keys := by
    simp [Response.caseless, Headers.table, OrderedMap.keys]
  rw [← hkeys]
  exact hspelled.trans (by decide +kernel)

end VerbDoc
