import VerbDoc.Message.Attached
import VerbDoc.Proofs.OrderedMap

/-!
# Selected headers

The headers that go by some names, in any spelling, can be looked at on their own. Main statements:
a change of a header is a change of the selected ones where its name is selected, and a value that
is added under another name leaves them alone. So it comes last under its own name and nowhere else,
and a response apart from a header does not show what is added to that header.
-/
namespace VerbDoc

namespace Headers

def select (p : Text → Bool) (headers : Headers) : Headers where
  entries := headers.entries.filter fun e => p (Text.lower e.1)
  nodup_keys := headers.nodup_keys.sublist (List.filter_sublist.map _)

variable {p : Text → Bool} {name : Text}

theorem keys_select (p : Text → Bool) (headers : Headers) :
    (headers.select p).keys = headers.keys.filter fun key => p (Text.lower key) := by
  rw [OrderedMap.keys, OrderedMap.keys, List.filter_map]
  rfl

theorem stored?_select (headers : Headers) (hname : p (Text.lower name) = true) :
    (headers.select p).stored? name = headers.stored? name := by
  rw [stored?, stored?, keys_select, List.find?_filter]
  congr 1
  funext key
  by_cases hkey : Text.lower key = Text.lower name
  · simp [hkey, hname]
  · simp [hkey]

theorem get?_select (headers : Headers) {key : Text} (hkey : p (Text.lower key) = true) :
    (headers.select p).get? key = headers.get? key :=
  OrderedMap.find_filter_of_pos (p := fun key => p (Text.lower key)) hkey headers.entries

theorem values_select (headers : Headers) (hname : p (Text.lower name) = true) :
    (headers.select p).values name = headers.values name := by
  rw [values, values, stored?_select headers hname]
  cases hstored : headers.stored? name with
  | none => rfl
  | some key =>
    have hkey : p (Text.lower key) = true := by rwa [lower_of_stored? hstored]
    simp only [get?_select headers hkey]

/-! ## Changes of an entry -/

theorem select_insert_of_pos (headers : Headers) {key : Text} (hkey : p (Text.lower key) = true)
    (values : List Value) :
    select p (headers.insert key values) = (headers.select p).insert key values :=
  OrderedMap.ext <| OrderedMap.filter_put_of_pos (p := fun key => p (Text.lower key)) hkey values
    headers.entries

theorem select_insert_of_neg (headers : Headers) {key : Text} (hkey : p (Text.lower key) = false)
    (values : List Value) : select p (headers.insert key values) = headers.select p :=
  OrderedMap.ext <| OrderedMap.filter_put_of_neg (p := fun key => p (Text.lower key)) hkey values
    headers.entries

theorem select_erase (headers : Headers) (key : Text) :
    select p (headers.erase key) = (headers.select p).erase key := by
  apply OrderedMap.ext
  simp only [select, OrderedMap.erase, List.filter_filter]
  apply List.filter_congr
  intro e _
  exact Bool.and_comm _ _

/-! ## Changes of a header -/

theorem select_add_of_pos (headers : Headers) (hname : p (Text.lower name) = true) (value : Value) :
    (headers.add name value).select p = (headers.select p).add name value := by
  unfold add
  rw [stored?_select headers hname]
  cases hstored : headers.stored? name with
  | none => exact select_insert_of_pos headers hname [value]
  | some key =>
    have hkey : p (Text.lower key) = true := by rwa [lower_of_stored? hstored]
    dsimp only
    rw [select_insert_of_pos headers hkey, get?_select headers hkey]

theorem select_add_of_neg (headers : Headers) (hname : p (Text.lower name) = false)
    (value : Value) : (headers.add name value).select p = headers.select p := by
  unfold add
  cases hstored : headers.stored? name with
  | none => exact select_insert_of_neg headers hname [value]
  | some key =>
    have hkey : p (Text.lower key) = false := by rwa [lower_of_stored? hstored]
    exact select_insert_of_neg headers hkey _

theorem select_replace_of_pos (headers : Headers) (hname : p (Text.lower name) = true)
    (value : Value) :
    (headers.replace name value).select p = (headers.select p).replace name value := by
  unfold replace
  rw [stored?_select headers hname]
  cases headers.stored? name with
  | none => exact select_insert_of_pos headers hname [value]
  | some key =>
    dsimp only
    rw [select_insert_of_pos _ hname, select_erase]

/-! ## A value that is added -/

variable {other : Text}

theorem values_eq_of_select_eq {a b : Headers} (hname : p (Text.lower name) = true)
    (h : a.select p = b.select p) : a.values name = b.values name := by
  rw [← values_select a hname, h, values_select b hname]

/-- A value that is added to another header makes no difference. -/
theorem values_add_of_ne (headers : Headers) (hne : Text.lower other ≠ Text.lower name)
    (value : Value) : (headers.add other value).values name = headers.values name := by
  have hself : (Text.lower name == Text.lower name) = true := beq_self_eq_true _
  exact values_eq_of_select_eq (p := (· == Text.lower name)) hself
    (select_add_of_neg headers (by simpa using hne) value)

/-- A value that is added to a header comes last. -/
theorem values_add_self (headers : Headers) (hsame : Text.lower other = Text.lower name)
    (value : Value) : (headers.add other value).values name = headers.values name ++ [value] := by
  rw [values_congr _ hsame.symm, values_congr headers hsame.symm]
  unfold add
  cases hstored : headers.stored? other with
  | none =>
    have hnew : other ∉ headers.keys := by
      intro hmem
      simpa using List.find?_eq_none.1 hstored other hmem
    have hfound : stored? (headers.insert other [value]) other = some other := by
      unfold stored? at hstored ⊢
      rw [OrderedMap.keys_insert, if_neg hnew, List.find?_append, hstored]
      simp
    rw [values, hfound, values, hstored]
    simp
  | some key =>
    have hfound : stored? (headers.insert key ((headers.get? key).getD [] ++ [value])) other =
        some key := by
      rw [stored?, OrderedMap.keys_insert, if_pos (mem_keys_of_stored? hstored)]
      exact hstored
    dsimp only
    rw [values, hfound, values, hstored]
    simp

end Headers

/-! ## A response apart from a header -/

namespace Response

def without (r : Response) (name : Text) : Response :=
  { r with headers := r.headers.select (· != Text.lower name) }

variable {name other : Text}

theorem without_addHeader_of_ne (r : Response) (hne : Text.lower other ≠ Text.lower name)
    (value : Value) :
    (r.addHeader other value).without name = (r.without name).addHeader other value :=
  congrArg (fun headers => { r with headers }) <|
    Headers.select_add_of_pos (p := (· != Text.lower name)) r.headers (by simpa using hne) value

theorem without_addHeader_self (r : Response) (hsame : Text.lower other = Text.lower name)
    (value : Value) : (r.addHeader other value).without name = r.without name :=
  congrArg (fun headers => { r with headers }) <|
    Headers.select_add_of_neg (p := (· != Text.lower name)) r.headers (by simpa using hsame) value

theorem without_setHeader_of_ne (r : Response) (hne : Text.lower other ≠ Text.lower name)
    (value : Value) :
    (r.setHeader other value).without name = (r.without name).setHeader other value :=
  congrArg (fun headers => { r with headers }) <|
    Headers.select_replace_of_pos (p := (· != Text.lower name)) r.headers (by simpa using hne) value

end Response

namespace Attached

def without (name : Text) : Attached → Attached
  | .response r => .response (r.without name)
  | a => a

end Attached
end VerbDoc
