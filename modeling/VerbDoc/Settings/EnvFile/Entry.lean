import VerbDoc.Text.Lines

/-!
# Entries of a file of environment variables

An entry is a line `NAME=value`. A value may stand in quotes, which are removed, and may then go
on over several lines; one without quotes ends before white space that is followed by `#`. Blank
lines and comments count for nothing, and what has no such form is skipped to the end of its
line. Main statement: every entry leaves less to read.
-/
namespace VerbDoc.Settings.EnvFile

open Text

def isSpacing (c : Char) : Bool := isBlank c && c != '\n'

def skipLine (t : Text) : Text := (t.dropWhile (· != '\n')).drop 1

def beforeComment : Text → Text
  | [] => []
  | c :: rest =>
    if isBlank c && (rest.dropWhile isBlank).head? == some '#' then []
    else c :: beforeComment rest

/-- What stands before the closing quote, and what stands after it. The character after a
backslash never closes. -/
def splitQuoted (quote : Char) : Text → Option (Text × Text)
  | [] => none
  | '\\' :: c :: rest => (splitQuoted quote rest).map fun r => ('\\' :: c :: r.1, r.2)
  | c :: rest =>
    if c = quote then some ([], rest)
    else (splitQuoted quote rest).map fun r => (c :: r.1, r.2)

/-- What the character after a backslash stands for between single quotes. -/
def singleEscape? (c : Char) : Option Char := if c = '\\' ∨ c = '\'' then some c else none

/-- What the character after a backslash stands for between double quotes. -/
def doubleEscape? (c : Char) : Option Char :=
  match c with
  | 'a' => some '\x07'
  | 'b' => some '\x08'
  | 'f' => some '\x0c'
  | 'n' => some '\n'
  | 'r' => some '\r'
  | 't' => some '\t'
  | 'v' => some '\x0b'
  | '"' => some '"'
  | c => singleEscape? c

/-- The text with its escapes replaced; a backslash before any other character stays. -/
def unescape (escape? : Char → Option Char) : Text → Text
  | '\\' :: c :: rest =>
    match escape? c with
    | some d => d :: unescape escape? rest
    | none => '\\' :: c :: unescape escape? rest
  | c :: rest => c :: unescape escape? rest
  | [] => []

def splitValue? (t : Text) : Option (Text × Text) :=
  match t.dropWhile isSpacing with
  | '\'' :: rest => (splitQuoted '\'' rest).map fun r => (unescape singleEscape? r.1, r.2)
  | '"' :: rest => (splitQuoted '"' rest).map fun r => (unescape doubleEscape? r.1, r.2)
  | _ => some (trim (beforeComment (t.takeWhile (· != '\n'))), t.dropWhile (· != '\n'))

/-- The text without the word `export` and white space in front of its variable. -/
def dropExport (t : Text) : Text :=
  match Text.after? "export".toList t with
  | some (c :: rest) => if isSpacing c then rest.dropWhile isSpacing else t
  | _ => t

def endsName (c : Char) : Bool := c == '=' || c == '#' || isBlank c

/-- The name at the start of a text, and what stands after it. A name in single quotes may hold
any characters. -/
def splitName? : Text → Option (Text × Text)
  | '\'' :: rest =>
    match rest.takeWhile (· != '\''), rest.dropWhile (· != '\'') with
    | c :: name, _ :: after => some (c :: name, after)
    | _, _ => none
  | t =>
    match t.takeWhile fun c => !endsName c with
    | [] => none
    | c :: name => some (c :: name, t.dropWhile fun c => !endsName c)

/-- The text after the end of a line that holds nothing more, or nothing but a comment. -/
def afterEnd? (t : Text) : Option Text :=
  match t.dropWhile isSpacing with
  | [] => some []
  | '\n' :: rest => some rest
  | '#' :: rest => some (skipLine rest)
  | _ => none

/-- A variable with its value; without an equals sign it has none. -/
abbrev Entry := Text × Option Text

/-- The entry, if nothing stands on its line after it, and the text after that line. -/
def closeEntry (entry : Entry) (after : Text) : Option Entry × Text :=
  match afterEnd? after with
  | some rest => (some entry, rest)
  | none => (none, skipLine after)

/-- The entry at the start of a text, if there is one, and the text that is left. -/
def splitEntry (t : Text) : Option Entry × Text :=
  let t := dropExport t
  match splitName? t with
  | none => (none, skipLine t)
  | some (name, after) =>
    match after.dropWhile isSpacing with
    | '=' :: rest =>
      match splitValue? rest with
      | some (value, after) => closeEntry (name, some value) after
      | none => (none, skipLine rest)
    | after => closeEntry (name, none) after

theorem length_dropWhile_le (p : Char → Bool) (t : Text) : (t.dropWhile p).length ≤ t.length :=
  (List.dropWhile_sublist p).length_le

theorem length_skipLine_le (t : Text) : (skipLine t).length ≤ t.length - 1 := by
  rw [skipLine, List.length_drop]
  have := length_dropWhile_le (· != '\n') t
  omega

theorem length_dropExport_le (t : Text) : (dropExport t).length ≤ t.length := by
  unfold dropExport
  split
  · next c rest h =>
    rw [after?_eq_some_iff] at h
    split
    · have := length_dropWhile_le isSpacing rest
      rw [h]
      simp
      omega
    · exact Nat.le_refl _
  · exact Nat.le_refl _

theorem length_lt_of_splitName? {t name after : Text} (h : splitName? t = some (name, after)) :
    after.length < t.length := by
  have hsplit (p : Char → Bool) (u : Text) :
      (u.takeWhile p).length + (u.dropWhile p).length = u.length := by
    rw [← List.length_append, List.takeWhile_append_dropWhile]
  unfold splitName? at h
  split at h
  · next rest =>
    split at h
    · next c n d more htake hdrop =>
      obtain ⟨-, rfl⟩ := Prod.mk.inj (Option.some.inj h)
      have := hsplit (· != '\'') rest
      rw [htake, hdrop] at this
      simp only [List.length_cons] at this ⊢
      omega
    · cases h
  · split at h
    · cases h
    · next c n htake =>
      obtain ⟨-, rfl⟩ := Prod.mk.inj (Option.some.inj h)
      have := hsplit (fun c => !endsName c) t
      rw [htake] at this
      simp only [List.length_cons] at this
      omega

theorem length_le_of_splitQuoted {quote : Char} {t inside after : Text}
    (h : splitQuoted quote t = some (inside, after)) : after.length ≤ t.length := by
  fun_induction splitQuoted quote t generalizing inside after with
  | case1 => cases h
  | case2 c rest ih =>
    obtain ⟨r, hr, heq⟩ := Option.map_eq_some_iff.1 h
    cases heq
    have := ih hr
    simp only [List.length_cons]
    omega
  | case3 rest =>
    cases h
    simp
  | case4 c rest _ _ ih =>
    obtain ⟨r, hr, heq⟩ := Option.map_eq_some_iff.1 h
    cases heq
    have := ih hr
    simp only [List.length_cons]
    omega

theorem length_le_of_splitValue? {t value after : Text} (h : splitValue? t = some (value, after)) :
    after.length ≤ t.length := by
  unfold splitValue? at h
  have hdrop := length_dropWhile_le isSpacing t
  split at h
  · next rest heq =>
    obtain ⟨r, hr, he⟩ := Option.map_eq_some_iff.1 h
    cases he
    have := length_le_of_splitQuoted hr
    rw [heq, List.length_cons] at hdrop
    omega
  · next rest heq =>
    obtain ⟨r, hr, he⟩ := Option.map_eq_some_iff.1 h
    cases he
    have := length_le_of_splitQuoted hr
    rw [heq, List.length_cons] at hdrop
    omega
  · cases h
    exact length_dropWhile_le _ t

theorem length_le_of_afterEnd? {t rest : Text} (h : afterEnd? t = some rest) :
    rest.length ≤ t.length := by
  unfold afterEnd? at h
  have hdrop := length_dropWhile_le isSpacing t
  split at h
  · cases h
    simp
  · next r heq =>
    cases h
    rw [heq, List.length_cons] at hdrop
    omega
  · next r heq =>
    cases h
    have := length_skipLine_le r
    rw [heq, List.length_cons] at hdrop
    omega
  · cases h

theorem length_closeEntry_le (entry : Entry) (after : Text) :
    (closeEntry entry after).2.length ≤ after.length := by
  unfold closeEntry
  split
  · next h => exact length_le_of_afterEnd? h
  · have := length_skipLine_le after
    simp only
    omega

/-- Every entry, and every line that holds none, leaves less to read. -/
theorem length_splitEntry_lt {t : Text} (h : t ≠ []) : (splitEntry t).2.length < t.length := by
  have hpos : 0 < t.length := List.length_pos_iff.2 h
  have hexport := length_dropExport_le t
  unfold splitEntry
  dsimp only
  split
  · have := length_skipLine_le (dropExport t)
    simp only
    omega
  · next name after hname =>
    have hlt := length_lt_of_splitName? hname
    have hdrop := length_dropWhile_le isSpacing after
    split
    · next rest heq =>
      rw [heq, List.length_cons] at hdrop
      split
      · next value more hvalue =>
        have := length_le_of_splitValue? hvalue
        have := length_closeEntry_le (name, some value) more
        omega
      · have := length_skipLine_le rest
        simp only
        omega
    · have := length_closeEntry_le (name, none) (after.dropWhile isSpacing)
      omega

/-- The entries of a text in order. White space in front of an entry may hold blank lines. -/
def entries (t : Text) : List Entry :=
  match _h : trimStart t with
  | [] => []
  | c :: rest => (splitEntry (c :: rest)).1.toList ++ entries (splitEntry (c :: rest)).2
termination_by t.length
decreasing_by
  have hlt := length_splitEntry_lt (List.cons_ne_nil c rest)
  have hle := length_dropWhile_le isBlank t
  unfold trimStart at _h
  rw [_h] at hle
  omega

end VerbDoc.Settings.EnvFile
