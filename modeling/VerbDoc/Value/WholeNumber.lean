import VerbDoc.Text.Basic

/-!
# Whole numbers in text

A whole number may be written with white space around it, with a sign, with leading zeros, with
single underscores between its digits, and with a point and zeros at its end. A minus sign may
also come behind the leading zeros, and ends them.
-/
namespace VerbDoc.Text

/-- White space around a number, which does not include the information separators. -/
def isPadding (c : Char) : Bool := isBlank c && !(0x1C ≤ c.toNat && c.toNat ≤ 0x1F)

def unpadded (t : Text) : Text := ((t.dropWhile isPadding).reverse.dropWhile isPadding).reverse

/-- Leading zeros, and the underscores among them. -/
def leads (c : Char) : Bool := c == '0' || c == '_'

/-- What is left of a number without its leading zeros. The last of them stays where no other
character comes before the point or the end. A number starts with a digit. -/
def withoutLeadingZeros? : Text → Option Text
  | [] => none
  | c :: rest =>
    if c == '0' then
      match (c :: rest).dropWhile leads with
      | [] => some (c :: rest).getLast?.toList
      | '.' :: zeros => some (((c :: rest).takeWhile leads).getLast?.toList ++ '.' :: zeros)
      | others => some others
    else if c.isDigit then some (c :: rest)
    else none

/-- A number without the point and the zeros, one at least, that may end it. -/
def withoutFraction? (t : Text) : Option Text :=
  match t.dropWhile (· != '.') with
  | [] => some t
  | _ :: zeros =>
    if !zeros.isEmpty && zeros.all (· == '0') then some (t.takeWhile (· != '.')) else none

def hasDoubleUnderscore : Text → Bool
  | '_' :: '_' :: _ => true
  | _ :: rest => hasDoubleUnderscore rest
  | [] => false

/-- A number without its underscores, none of which may stand at an end or beside another. -/
def withoutUnderscores? (t : Text) : Option Text :=
  if t.head? == some '_' || t.getLast? == some '_' || hasDoubleUnderscore t then none
  else some (t.filter (· != '_'))

/-- A number with nothing but its digits left, and a minus sign where one came behind the leading
zeros. -/
def plainNumber? (t : Text) : Option Text :=
  ((withoutLeadingZeros? t).bind withoutFraction?).bind withoutUnderscores?

def longestNumber : Nat := 4300

def natOfDigits? (digits : Text) : Option Nat :=
  if digits.isEmpty || !digits.all Char.isDigit || digits.length > longestNumber then none
  else some (Nat.ofDigitChars 10 digits 0)

/-- The number with the given digits, negated by a minus sign in front of them. Behind the sign no
zero comes before another digit. -/
def signedOfDigits? : Text → Option Int
  | '-' :: '0' :: _ :: _ => none
  | '-' :: digits => (natOfDigits? digits).map fun n => -(n : Int)
  | digits => (natOfDigits? digits).map Int.ofNat

def unsignedOf? (t : Text) : Option Int := (plainNumber? t).bind signedOfDigits?

/-- The number behind a minus sign, which bears no second one. -/
def negatedOf? (t : Text) : Option Int :=
  ((plainNumber? t).bind natOfDigits?).map fun n => -(n : Int)

def intOf? (t : Text) : Option Int :=
  match unpadded t with
  | '-' :: rest => negatedOf? rest
  | '+' :: rest => unsignedOf? rest
  | rest => unsignedOf? rest

end VerbDoc.Text
