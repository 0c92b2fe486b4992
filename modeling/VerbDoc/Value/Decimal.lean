import VerbDoc.Text.Basic

/-!
# Floating-point numbers by their shortest decimal

A floating-point number is held as the shortest decimal that names it, which is how it is read
and how it is shown. From 2 ^ 53 on the decimal may miss the number itself, because numbers
there are multiples of a power of two; `Decimal.whole?` therefore rounds to that grid.
-/
namespace VerbDoc

/-- The number `coefficient * 10 ^ exponent`, negated where `negative` holds. Zero keeps its
sign. The coefficient has no trailing zero, so that one number has one form. -/
structure Decimal where
  negative : Bool
  coefficient : Nat
  exponent : Int
  deriving DecidableEq, Repr

/-- A floating-point number: finite, an infinity, or no number at all. -/
inductive Floating where
  | finite (value : Decimal)
  | infinite (negative : Bool)
  | undefined
  deriving DecidableEq, Repr

namespace Decimal

/-- The decimal written by `digits`, with the power of ten `exponent` for the last one. -/
def ofDigits (negative : Bool) (digits : Text) (exponent : Int) : Decimal :=
  let trailing := digits.reverse.takeWhile (· = '0')
  let leading := (digits.reverse.dropWhile (· = '0')).reverse
  match Nat.ofDigitChars 10 leading 0 with
  | 0 => ⟨negative, 0, 0⟩
  | n + 1 => ⟨negative, n + 1, exponent + trailing.length⟩

def signText (negative : Bool) : Text := if negative then ['-'] else []

/-- The power of ten in exponent form: always signed, two digits at least. -/
def exponentText (power : Int) : Text :=
  let digits := Nat.toDigits 10 power.natAbs
  let padded := if digits.length < 2 then '0' :: digits else digits
  'e' :: (if power < 0 then '-' else '+') :: padded

/-- Digits with a point after the first `point` of them; zeros fill both sides as needed, and
at least one digit stands on either side. -/
def positional (digits : Text) (point : Int) : Text :=
  if point ≤ 0 then '0' :: '.' :: (List.replicate point.natAbs '0' ++ digits)
  else
    let whole := digits.take point.toNat
    let fraction := digits.drop point.toNat
    let filled := whole ++ List.replicate (point.toNat - whole.length) '0'
    filled ++ '.' :: (if fraction.isEmpty then ['0'] else fraction)

/-- One digit, the rest after a point, and the power of ten. -/
def scientific (digits : Text) (power : Int) : Text :=
  let fraction := digits.drop 1
  digits.take 1 ++ (if fraction.isEmpty then [] else '.' :: fraction) ++ exponentText power

/-- The text of a decimal: positional from 0.0001 up to, not including, 10 ^ 16, in exponent
form elsewhere. -/
def text (d : Decimal) : Text :=
  let digits := Nat.toDigits 10 d.coefficient
  let point := digits.length + d.exponent
  signText d.negative ++
    if -4 < point ∧ point ≤ 16 then positional digits point else scientific digits (point - 1)

/-- The multiple of `step` nearest to `n`; half way the even multiple. -/
def roundTo (step n : Nat) : Nat :=
  let quotient := n / step
  let rest := n % step
  if 2 * rest < step ∨ (2 * rest = step ∧ quotient % 2 = 0) then quotient * step
  else (quotient + 1) * step

/-- The floating-point number nearest to a whole one: 53 significant binary digits. -/
def roundToFloating (n : Nat) : Nat :=
  if n < Nat.pow 2 53 then n else roundTo (Nat.pow 2 (n.log2 - 52)) n

def whole? (d : Decimal) : Option Int :=
  if d.coefficient = 0 then some 0
  else if d.exponent < 0 then none
  else
    let size := roundToFloating (d.coefficient * Nat.pow 10 d.exponent.toNat)
    some (if d.negative then -(size : Int) else size)

end Decimal

namespace Floating

def text : Floating → Text
  | .finite d => d.text
  | .infinite negative => Decimal.signText negative ++ ['i', 'n', 'f']
  | .undefined => ['n', 'a', 'n']

def readDigits? (t : Text) : Option Nat :=
  if t.isEmpty || !t.all Char.isDigit then none else some (Nat.ofDigitChars 10 t 0)

def readPower? : Text → Option Int
  | '-' :: digits => (readDigits? digits).map fun n => -(n : Int)
  | '+' :: digits => (readDigits? digits).map Int.ofNat
  | digits => (readDigits? digits).map Int.ofNat

def readUnsigned? (negative : Bool) (t : Text) : Option Floating :=
  let whole := t.takeWhile Char.isDigit
  let afterWhole := t.dropWhile Char.isDigit
  let (fraction, rest) :=
    match afterWhole with
    | '.' :: more => (more.takeWhile Char.isDigit, more.dropWhile Char.isDigit)
    | more => ([], more)
  let power? : Option Int :=
    match rest with
    | [] => some 0
    | 'e' :: more => readPower? more
    | _ => none
  match whole, power? with
  | _ :: _, some power =>
    some (.finite (Decimal.ofDigits negative (whole ++ fraction) (power - fraction.length)))
  | _, _ => none

def ofText? (t : Text) : Option Floating :=
  let (negative, size) :=
    match t with
    | '-' :: rest => (true, rest)
    | rest => (false, rest)
  if size = ['i', 'n', 'f'] then some (.infinite negative)
  else if t = ['n', 'a', 'n'] then some .undefined
  else readUnsigned? negative size

def whole? : Floating → Option Int
  | .finite d => d.whole?
  | _ => none

end Floating
end VerbDoc
