import VerbDoc.Fault
import VerbDoc.Text.Lists
import VerbDoc.Value.Reading

/-!
# The order of values

Numbers of all types are ordered by their size, texts by their code points, and lists by the first
items in which they differ. Other values have no order, and whatever compares them fails.
-/
namespace VerbDoc

/-- The size of a number: a whole number of units, of which each is a power of ten. -/
inductive Magnitude where
  | below
  | finite (units : Int) (places : Nat)
  | above
  | undefined

namespace Magnitude

def ofDecimal (d : Decimal) : Magnitude :=
  match d.whole? with
  | some n => .finite n 0
  | none => .finite (if d.negative then -(d.coefficient : Int) else d.coefficient) d.exponent.natAbs

/-- One number is less than another. Nothing is less than what is no number at all. -/
def precedes : Magnitude → Magnitude → Bool
  | .undefined, _ | _, .undefined | _, .below | .above, _ => false
  | .below, _ | _, .above => true
  | .finite a p, .finite b q => a * Int.pow 10 q < b * Int.pow 10 p

def same : Magnitude → Magnitude → Bool
  | .below, .below | .above, .above => true
  | .finite a p, .finite b q => a * Int.pow 10 q == b * Int.pow 10 p
  | _, _ => false

end Magnitude

namespace Value

def magnitude? : Value → Option Magnitude
  | .int n => some (.finite n 0)
  | .bool b => some (.finite (if b then 1 else 0) 0)
  | .float (.finite d) => some (.ofDecimal d)
  | .float (.infinite negative) => some (if negative then .below else .above)
  | .float .undefined => some .undefined
  | _ => none

mutual

def same : Value → Value → Bool
  | .null, .null => true
  | .text a, .text b => a == b
  | .list a, .list b => sameItems a b
  | .object a, .object b => a.length == b.length && sameMembers a b
  | a, b =>
    match a.magnitude?, b.magnitude? with
    | some x, some y => x.same y
    | _, _ => false

def sameItems : List Value → List Value → Bool
  | [], [] => true
  | x :: xs, y :: ys => same x y && sameItems xs ys
  | _, _ => false

def sameMembers : List (Text × Value) → List (Text × Value) → Bool
  | [], _ => true
  | (key, v) :: rest, others =>
    (match OrderedMap.find key others with
      | some w => same v w
      | none => false) && sameMembers rest others

end

mutual

/-- One value comes before another, if the two have an order. -/
def precedes : Value → Value → Except Fault Bool
  | .text a, .text b => .ok (Text.precedes a b)
  | .list a, .list b => precedesItems a b
  | a, b =>
    match a.magnitude?, b.magnitude? with
    | some x, some y => .ok (x.precedes y)
    | _, _ => .error .wrongType

/-- One list comes before another. A list comes after its initial parts. -/
def precedesItems : List Value → List Value → Except Fault Bool
  | [], others => .ok (!others.isEmpty)
  | _ :: _, [] => .ok false
  | x :: xs, y :: ys => if same x y then precedesItems xs ys else precedes x y

end

/-! ## Sorting -/

/-- The items that follow `last` in a run, which is descending or has no descent, and the others
behind it. -/
def runAfter (descending : Bool) (last : Value) :
    List Value → Except Fault (List Value × List Value)
  | [] => .ok ([], [])
  | v :: rest => do
    if (← v.precedes last) == descending then
      let (run, others) ← runAfter descending v rest
      return (v :: run, others)
    else return ([], v :: rest)

/-- The longest run at the start of a list in ascending order, and the items behind it. -/
def firstRun : List Value → Except Fault (List Value × List Value)
  | a :: b :: rest => do
    let descending ← b.precedes a
    let (run, others) ← runAfter descending b rest
    return (if descending then (a :: b :: run).reverse else a :: b :: run, others)
  | few => .ok (few, [])

/-- The number of items between `low` and `high` in an ordered list that a value comes after, found
by halves. -/
def placeAmong (v : Value) (ordered : List Value) (low high : Nat) : Except Fault Nat :=
  if low < high then
    let middle := low + (high - low) / 2
    match v.precedes (ordered.getD middle .null) with
    | .error f => .error f
    | .ok true => placeAmong v ordered low middle
    | .ok false => placeAmong v ordered (middle + 1) high
  else .ok low
termination_by high - low

/-- An ordered list with one more item, behind all that it does not come before. -/
def insertOrdered (ordered : List Value) (v : Value) : Except Fault (List Value) :=
  (placeAmong v ordered 0 ordered.length).map fun place =>
    ordered.take place ++ v :: ordered.drop place

/-- Items of any type in order, if all of them that are compared have one. -/
def sortItems (items : List Value) : Except Fault (List Value) := do
  let (run, others) ← firstRun items
  others.foldlM insertOrdered run

def sorted (v : Value) : Except Fault (List Value) :=
  match v.items? with
  | none => .error .wrongType
  | some items =>
    match items.mapM asText? with
    | some texts => .ok ((texts.mergeSort fun a b => !Text.precedes b a).map .text)
    | none => sortItems items

end Value
end VerbDoc
