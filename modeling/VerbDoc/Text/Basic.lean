/-!
# Text: white space, trimming and joining

A text is the list of its code points. White space is the set of Unicode characters that
separate words or lines, together with the four information separators U+001C to U+001F;
trimming, tag tokens and comma lists all use this one set. Main statements: `trim` leaves no
white space at either end, and is the identity on texts that have none there.
-/
namespace VerbDoc

abbrev Text := List Char

namespace Text

/-- Inclusive ranges of the code points that are white space. -/
def blankRanges : List (Nat × Nat) :=
  [(0x09, 0x0D), (0x1C, 0x20), (0x85, 0x85), (0xA0, 0xA0), (0x1680, 0x1680), (0x2000, 0x200A),
   (0x2028, 0x2029), (0x202F, 0x202F), (0x205F, 0x205F), (0x3000, 0x3000)]

def inRanges (ranges : List (Nat × Nat)) (code : Nat) : Bool :=
  ranges.any fun range => range.1 ≤ code && code ≤ range.2

def isBlank (c : Char) : Bool := inRanges blankRanges c.toNat

def trimStart (t : Text) : Text := t.dropWhile isBlank

def trimEnd (t : Text) : Text := (t.reverse.dropWhile isBlank).reverse

def trim (t : Text) : Text := trimEnd (trimStart t)

def Trimmed (t : Text) : Prop :=
  (∀ c, t.head? = some c → isBlank c = false) ∧ (∀ c, t.getLast? = some c → isBlank c = false)

/-- What comes after `lead` in a text that starts with it. -/
def after? : Text → Text → Option Text
  | [], t => some t
  | _ :: _, [] => none
  | a :: lead, b :: t => if a = b then after? lead t else none

def hasPart (part : Text) : Text → Bool
  | [] => part.isEmpty
  | c :: rest => part.isPrefixOf (c :: rest) || hasPart part rest

def joinWith (sep : Text) (parts : List Text) : Text := sep.intercalate parts

def ofLines (lines : List String) : Text := joinWith ['\n'] (lines.map String.toList)

def listed (parts : List Text) : Text := joinWith [',', ' '] parts

theorem after?_eq_some_iff {lead t rest : Text} : after? lead t = some rest ↔ t = lead ++ rest := by
  induction lead generalizing t with
  | nil => simp [after?, eq_comm]
  | cons a lead ih =>
    cases t with
    | nil => simp [after?]
    | cons b t => by_cases h : a = b <;> simp [after?, h, ih, eq_comm]

@[simp] theorem after?_append (lead rest : Text) : after? lead (lead ++ rest) = some rest :=
  after?_eq_some_iff.2 rfl

theorem head?_dropWhile_eq_false {p : Char → Bool} {t : Text} {c : Char}
    (h : (t.dropWhile p).head? = some c) : p c = false := by
  have := List.head?_dropWhile_not p t
  simpa [h] using this

theorem trimStart_eq_self {t : Text} (h : ∀ c, t.head? = some c → isBlank c = false) :
    trimStart t = t := by
  cases t with
  | nil => rfl
  | cons c r => simp [trimStart, h c rfl]

theorem trimEnd_eq_self {t : Text} (h : ∀ c, t.getLast? = some c → isBlank c = false) :
    trimEnd t = t := by
  have hr : trimStart t.reverse = t.reverse :=
    trimStart_eq_self fun c hc => h c (by simpa using hc)
  unfold trimStart at hr
  simp [trimEnd, hr]

theorem trim_eq_self {t : Text} (h : Trimmed t) : trim t = t := by
  rw [trim, trimStart_eq_self h.1, trimEnd_eq_self h.2]

theorem getLast?_trimEnd {t : Text} {c : Char} (h : (trimEnd t).getLast? = some c) :
    isBlank c = false := by
  rw [trimEnd, List.getLast?_reverse] at h
  exact head?_dropWhile_eq_false h

/-- What `trimEnd` keeps is an initial part of the text. -/
theorem exists_trimEnd_append (t : Text) :
    ∃ tail, t = trimEnd t ++ tail ∧ ∀ c ∈ tail, isBlank c = true := by
  refine ⟨(t.reverse.takeWhile isBlank).reverse, ?_, ?_⟩
  · rw [trimEnd, ← List.reverse_append, List.takeWhile_append_dropWhile, List.reverse_reverse]
  · intro c hc
    rw [List.mem_reverse] at hc
    exact List.all_eq_true.1 (List.all_takeWhile) c hc

/-- What `trimStart` drops is white space in front of the rest. -/
theorem exists_append_trimStart (t : Text) :
    ∃ lead, t = lead ++ trimStart t ∧ ∀ c ∈ lead, isBlank c = true := by
  refine ⟨t.takeWhile isBlank, List.takeWhile_append_dropWhile.symm, ?_⟩
  intro c hc
  exact List.all_eq_true.1 (List.all_takeWhile) c hc

theorem trimmed_trim (t : Text) : Trimmed (trim t) := by
  refine ⟨?_, fun c hc => getLast?_trimEnd hc⟩
  intro c hc
  obtain ⟨tail, hsplit, _⟩ := exists_trimEnd_append (trimStart t)
  have hhead : (trimStart t).head? = some c := by
    rw [hsplit, List.head?_append, show (trimEnd (trimStart t)).head? = some c from hc]
    rfl
  exact head?_dropWhile_eq_false hhead

@[simp] theorem trim_trim (t : Text) : trim (trim t) = trim t := trim_eq_self (trimmed_trim t)

end Text
end VerbDoc
