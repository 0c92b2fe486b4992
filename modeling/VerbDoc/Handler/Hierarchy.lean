import VerbDoc.Handler.Slots

/-!
# Hierarchies of declared classes

Classes are declared one after another, each with bases among those before it. A class may have a
say in what is derived from it.
-/
namespace VerbDoc

/-- A class as it is declared. A repeated member has the place of the first mention and the
content of the last. -/
structure ClassDeclaration where
  name : Text
  bases : List Text
  members : List MemberDeclaration

namespace ClassDeclaration

def checkedMembers (c : ClassDeclaration) : Except Fault (OrderedMap Text Member) :=
  (c.members.mapM fun (m : MemberDeclaration) => m.check.map fun member => (m.name, member)).map
    .ofList

/-- The name under which a class says what it is shown as. It is a text, and no member. -/
def qualifiedName : Text := "__qualname__".toList

/-- What only the body of a class may define. -/
def bodyCell : Text := "__classcell__".toList

def classMethodNames : List Text := [SpecialName.derivation, SpecialName.indexing]

def placed (name : Text) : Member → Member
  | .routine r =>
    if classMethodNames.contains name && r.receiver == .object then
      .routine { r with receiver := .objectClass }
    else .routine r
  | m => m

def equality : Text := "__eq__".toList

/-- The name of the member that gives a number to an object. -/
def hashing : Text := "__hash__".toList

/-- The names that a class defines without declaring them, given its members and the names that it
opens. A class that says which objects are equal has no numbers for them unless it says so. -/
def impliedNames (members : OrderedMap Text Member) (opened : List Text) : List Text :=
  let names := [SpecialName.home] ++ opened ++ [SpecialName.description] ++
    if members.contains equality then [hashing] else []
  names.filter fun name => !members.contains name

/-- A class without an accepted name is refused, and so is one whose declared members say
something else of its names than a text. -/
def checkNames (c : ClassDeclaration) (declared : OrderedMap Text Member) : Except Fault Unit := do
  checkClassName c.name
  match declared.get? qualifiedName with
  | none | some (.value (.text _)) => if declared.contains bodyCell then throw .wrongType
  | some _ => throw .wrongType

def titleAmong (c : ClassDeclaration) (declared : OrderedMap Text Member) : Text :=
  match declared.get? qualifiedName with
  | some (.value (.text title)) => title
  | _ => c.name

/-- The class that a declaration with these bases makes, with all its members and its number. -/
def toAncestor (c : ClassDeclaration) (number : Nat) (bases : List Lineage) :
    Except Fault Ancestor := do
  let declared ← c.checkedMembers
  let kept := (declared.erase qualifiedName).erase bodyCell
  let (members, opened) ← Slots.complete c.name bases kept
  c.checkNames declared
  let named := OrderedMap.ofList (members.entries.map fun e => (e.1, placed e.1 e.2))
  return .declared {
    number := number
    name := c.name
    title := c.titleAmong declared
    parent := Lineage.asParent ((Slots.primary? bases).getD [])
    bases := bases.filterMap fun base => base.head?.map Ancestor.identity
    members := named
    implied := impliedNames named opened
    opened := opened
    later := [] }

end ClassDeclaration

/-- A class after it has been derived from ancestors, the nearest of which that has something to
say about it has said so. -/
def Ancestor.derivedFrom (c : Ancestor) (ancestors : Lineage) : Except Fault Ancestor :=
  match ancestors.attribute? SpecialName.derivation with
  | none | some (.member .callable) | some (.member (.nestedClass _)) => .ok c
  | some (.member (.routine r)) =>
    match r.receiver with
    | .objectAndName => .error .notCallable
    | receiver =>
      let (host, result) := Step.runAll (receiver.host .absent) r.body
      result.map fun _ => if host.isDetachedClass then c.detach else c
  | some _ => .error .notCallable

/-- The classes declared so far with their lineages, the latest first. -/
structure Hierarchy where
  lineages : List (Text × Lineage)

namespace Hierarchy

/-- Before any declaration there is the class of all endpoints. -/
def initial : Hierarchy := ⟨[(Ancestor.base.name, [Ancestor.base])]⟩

def find (h : Hierarchy) (name : Text) : Except Fault Lineage :=
  match h.lineages.lookup name with
  | some lineage => .ok lineage
  | none => .error (.missingKey name)

/-- The hierarchy with one more class. Its bases are looked up before its members are checked. -/
def declare (h : Hierarchy) (c : ClassDeclaration) : Except Fault Hierarchy := do
  let bases ← c.bases.mapM h.find
  let made ← c.toAncestor h.lineages.length bases
  match Lineage.merge? (bases ++ [bases.filterMap List.head?]) with
  | none => throw .inconsistentBases
  | some ancestors =>
    let self ← made.derivedFrom ancestors
    return ⟨(c.name, self :: ancestors) :: h.lineages⟩

def declareAll (h : Hierarchy) (cs : List ClassDeclaration) : Except Fault Hierarchy :=
  cs.foldlM declare h

/-- The hierarchy after the class of a lineage has changed, wherever it is inherited from. -/
def change (h : Hierarchy) (l : Lineage) (f : Ancestor → Ancestor) : Hierarchy :=
  ⟨h.lineages.map fun entry =>
    (entry.1, entry.2.map fun d => if l.head?.any (d == ·) then f d else d)⟩

end Hierarchy
end VerbDoc
