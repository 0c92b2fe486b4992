import VerbDoc.Message
import VerbDoc.Proofs.OrderedMap

/-!
# A header that is replaced

Nothing keeps a response from being made with several spellings of one name. The first of them
answers for all, and it alone goes when the header is replaced; what is put in may then stand behind
another spelling. Main statement: what a replaced header answers under any name, and with it that
the new value answers exactly where no second spelling is in its way.
-/
namespace VerbDoc

namespace Headers

/-- The entries that go by a name, in any spelling. -/
def under (headers : Headers) (name : Text) : List (Text × List Value) :=
  headers.entries.filter fun e => Text.lower e.1 == Text.lower name

theorem stored?_eq_head? (headers : Headers) (name : Text) :
    headers.stored? name = (headers.under name).head?.map Prod.fst := by
  rw [stored?, OrderedMap.keys, List.find?_map, under, List.head?_filter]
  rfl

theorem mem_entries_of_mem_under {headers : Headers} {name : Text} {e : Text × List Value}
    (he : e ∈ headers.under name) : e ∈ headers.entries ∧ Text.lower e.1 = Text.lower name := by
  simpa [under] using he

/-- The first entry that goes by a name answers for it. -/
theorem values_eq_head? (headers : Headers) (name : Text) :
    headers.values name = ((headers.under name).head?.map Prod.snd).getD [] := by
  rw [values, stored?_eq_head?]
  cases hfirst : (headers.under name).head? with
  | none => rfl
  | some e =>
    have hmem := (mem_entries_of_mem_under (List.mem_of_head? hfirst)).1
    have hget : headers.get? e.1 = some e.2 := OrderedMap.find_eq_of_mem headers.nodup_keys hmem
    simp [hget]

/-- The entries that stay when a name is replaced: all but the first that goes by it. -/
def others (headers : Headers) (name : Text) : List (Text × List Value) :=
  match headers.stored? name with
  | some key => headers.entries.filter fun e => e.1 ≠ key
  | none => headers.entries

theorem entries_replace_eq_put (headers : Headers) (name : Text) (value : Value) :
    (headers.replace name value).entries = OrderedMap.put name [value] (headers.others name) := by
  unfold replace others
  cases headers.stored? name <;> rfl

/-- Of the entries that go by the name the first one goes. -/
theorem others_under_self (headers : Headers) (name : Text) :
    ((headers.others name).filter fun e => Text.lower e.1 == Text.lower name) =
      (headers.under name).tail := by
  have hstored := headers.stored?_eq_head? name
  unfold others
  rw [hstored]
  cases hunder : headers.under name with
  | nil => exact hunder
  | cons e rest =>
    -- Spellings differ, so that only the first entry has its own.
    have hnodup : ((headers.under name).map Prod.fst).Nodup :=
      headers.nodup_keys.sublist (List.filter_sublist.map _)
    rw [hunder, List.map_cons, List.nodup_cons] at hnodup
    have hrest : ∀ e' ∈ rest, decide (e'.1 ≠ e.1) = true := by
      intro e' he'
      have hne : e'.1 ≠ e.1 := fun heq => hnodup.1 (heq ▸ List.mem_map_of_mem he')
      exact decide_eq_true hne
    have hswap : ((headers.entries.filter fun e' => e'.1 ≠ e.1).filter
        fun e' => Text.lower e'.1 == Text.lower name) =
          (headers.under name).filter fun e' => e'.1 ≠ e.1 := by
      rw [under, List.filter_filter, List.filter_filter]
      apply List.filter_congr
      intro e' _
      exact Bool.and_comm _ _
    simp only [List.head?_cons, Option.map_some, List.tail_cons]
    rw [hswap, hunder, List.filter_cons_of_neg (by simp), List.filter_eq_self.2 hrest]

/-- Of the entries that go by another name none goes. -/
theorem others_under_of_ne (headers : Headers) {name other : Text}
    (hne : Text.lower other ≠ Text.lower name) :
    ((headers.others name).filter fun e => Text.lower e.1 == Text.lower other) =
      headers.under other := by
  unfold others
  cases hstored : headers.stored? name with
  | none => rfl
  | some key =>
    have hkey := lower_of_stored? hstored
    rw [under, List.filter_filter]
    apply List.filter_congr
    intro e _
    by_cases he : e.1 = key
    · have hlower : Text.lower e.1 ≠ Text.lower other := by
        rw [he, hkey]
        exact fun heq => hne heq.symm
      simp [hlower]
    · simp [he]

/-- The new entry comes in where its spelling is stored, or last. -/
theorem under_replace_self (headers : Headers) (name : Text) (value : Value) :
    (headers.replace name value).under name =
      OrderedMap.put name [value] (headers.under name).tail := by
  rw [under, entries_replace_eq_put, ← others_under_self]
  exact OrderedMap.filter_put_of_pos (p := fun key => Text.lower key == Text.lower name)
    (by simp) [value] (headers.others name)

theorem under_replace_of_ne (headers : Headers) {name other : Text}
    (hne : Text.lower other ≠ Text.lower name) (value : Value) :
    (headers.replace name value).under other = headers.under other := by
  have hname : (Text.lower name == Text.lower other) = false := by
    simpa using fun heq => hne (Eq.symm heq)
  rw [under, entries_replace_eq_put, ← others_under_of_ne headers hne]
  exact OrderedMap.filter_put_of_neg (p := fun key => Text.lower key == Text.lower other) hname
    [value] (headers.others name)

def second? (headers : Headers) (name : Text) : Option (Text × List Value) :=
  (headers.under name).tail.head?

/-- Once a header is replaced, the new value answers for it unless another spelling came second. -/
theorem values_replace_self (headers : Headers) (name : Text) (value : Value) :
    (headers.replace name value).values name =
      match headers.second? name with
      | none => [value]
      | some e => if e.1 = name then [value] else e.2 := by
  rw [values_eq_head?, under_replace_self, second?]
  cases (headers.under name).tail with
  | nil => rfl
  | cons e rest =>
    rw [OrderedMap.put, List.head?_cons]
    by_cases he : e.1 = name <;> simp [he]

theorem values_replace_of_ne (headers : Headers) {name other : Text}
    (hne : Text.lower other ≠ Text.lower name) (value : Value) :
    (headers.replace name value).values other = headers.values other := by
  rw [values_eq_head?, values_eq_head?, under_replace_of_ne headers hne]

/-- Nothing is in the way of a new value for the name: no second spelling is stored, or the second
one is that of the name, or it has the value already. -/
def LetsReplace (headers : Headers) (name : Text) (value : Value) : Prop :=
  ∀ e ∈ headers.second? name, e.1 = name ∨ e.2 = [value]

theorem values_replace_self_iff (headers : Headers) (name : Text) (value : Value) :
    (headers.replace name value).values name = [value] ↔ headers.LetsReplace name value := by
  rw [values_replace_self, LetsReplace]
  cases headers.second? name with
  | none => simp
  | some e => by_cases he : e.1 = name <;> simp [he]

end Headers

namespace Message

/-- Replacing a header of a response leaves every other header as it was. Under each of its
spellings the header itself has the one new value exactly where no other spelling came second, as
none does where one entry at most goes by the name; else it has the values of that spelling. -/
theorem headerValues_setHeader (r : Response) (name : Text) (value : Value) :
    ∃ s : Response, (Message.response r).setHeader (.text name) value = .ok (.response s) ∧
      (∀ other, Text.lower other ≠ Text.lower name →
        (Message.response s).headerValues (.text other) =
          (Message.response r).headerValues (.text other)) ∧
      (∀ other, Text.lower other = Text.lower name →
        ((Message.response s).headerValues (.text other) = .ok [value] ↔
          r.headers.LetsReplace name value) ∧
        ∀ e ∈ r.headers.second? name, e.1 ≠ name →
          (Message.response s).headerValues (.text other) = .ok e.2) ∧
      ((r.headers.under name).length ≤ 1 → r.headers.LetsReplace name value) := by
  have hself : ∀ other, Text.lower other = Text.lower name →
      (Message.response (r.setHeader name value)).headerValues (.text other) =
        .ok ((r.headers.replace name value).values name) :=
    fun other hsame => congrArg Except.ok (Headers.values_congr _ hsame)
  refine ⟨r.setHeader name value, rfl, ?_, ?_, ?_⟩
  · intro other hne
    exact congrArg Except.ok (r.headers.values_replace_of_ne hne value)
  · intro other hsame
    rw [hself other hsame]
    refine ⟨?_, ?_⟩
    · rw [Except.ok.injEq]
      exact r.headers.values_replace_self_iff name value
    · intro e he hne
      rw [Headers.values_replace_self, Option.mem_def.1 he]
      simp [hne]
  · intro hfew e he
    have hmem : e ∈ (r.headers.under name).tail := List.mem_of_head? he
    have hlength := List.length_pos_of_mem hmem
    rw [List.length_tail] at hlength
    omega

/-- Fields of a response with one header in two spellings. -/
def spelledTwice : Fields :=
  .ofList [("headers".toList, .object
    [("A".toList, .list [.text "1".toList]), ("a".toList, .list [.text "2".toList])])]

theorem keeps_old_spelledTwice :
    ∃ r s, Response.ofFields spelledTwice = .ok r ∧
      (Message.response r).setHeader (.text "A".toList) (.text "x".toList) = .ok s ∧
      Text.lower "a".toList = Text.lower "A".toList ∧
      s.headerValues (.text "a".toList) ≠ .ok [.text "x".toList] := by
  refine ⟨_, _, rfl, rfl, by decide +kernel, ?_⟩
  intro hnew
  -- The second spelling is the only one that is left in front.
  change Except.ok [Value.text "2".toList] = .ok [.text "x".toList] at hnew
  simp at hnew

end Message
end VerbDoc
