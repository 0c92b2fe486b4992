import VerbDoc.Handler.Lineage
import VerbDoc.Text.Identifier
import VerbDoc.Text.Printable
import VerbDoc.Value.Reading

/-!
# Places for the attributes of objects

A class may list the names of the attributes that its objects have places for. Such a place is
an attribute of the class and hides what the class inherits under its name. Main statement: a
class that lists no places has the members it declares and no others.
-/
namespace VerbDoc.Slots

/-- The names that a list of places gives, all of which are identifiers. A text stands for one
name. -/
def namesOf (v : Value) : Except Fault (List Text) :=
  let names? :=
    match v with
    | .text t => some [t]
    | v => v.items?.bind fun items => items.mapM Value.asText?
  match names? with
  | some names => if names.all Text.isIdentifier then .ok names else .error .wrongType
  | none => .error .wrongType

/-- The names of the places that a class with these members lists, if it lists any. -/
def listed (members : OrderedMap Text Member) : Except Fault (Option (List Text)) :=
  match members.get? SpecialName.slots with
  | none => .ok none
  | some (.value v) => (namesOf v).map some
  | some _ => .error .wrongType

/-- The name of a place as an attribute of the class. A name with two underscores in front and not
at the end bears the name of its class, which has its own leading underscores taken off. -/
def attributeName (className name : Text) : Text :=
  let marks := ['_', '_']
  let owner := className.dropWhile (· == '_')
  if marks.isPrefixOf name && !marks.isSuffixOf name && !owner.isEmpty then '_' :: owner ++ name
  else name

/-- The names that are no places of their own: a class that lists them lets its objects have all
attributes, or weak references. -/
def openings : List Text := [SpecialName.attributes, SpecialName.weakReference]

/-- What is listed again, or listed although the objects have it already, cannot be listed. -/
def repeatsOpening (primary : Lineage) (names : List Text) : Bool :=
  openings.any fun opening =>
    names.contains opening &&
      (primary.any (Ancestor.provides opening) || 1 < (names.filter (· == opening)).length)

/-- The members with one more place, which may not bear the name of a member. -/
def place (className : Text) (members : OrderedMap Text Member) (declared : List Text)
    (name : Text) : Except Fault (OrderedMap Text Member) :=
  let own := attributeName className name
  if openings.contains name then .ok members
  else if declared.contains own then
    .error <| .rejected <|
      Text.quoted own ++ " in __slots__ conflicts with class variable".toList
  else .ok (members.insert own .slot)

/-- The primary one of several bases: the first of those with the most places. The nearest classes
with places of all bases form a chain, or the places do not fit together. -/
def primaryAfter? (found : Lineage) : List Lineage → Option Lineage
  | [] => some found
  | base :: rest =>
    match found.find? Ancestor.hasSlots, base.find? Ancestor.hasSlots with
    | _, none => primaryAfter? found rest
    | none, some _ => primaryAfter? base rest
    | some nearest, some other =>
      if found.contains other then primaryAfter? found rest
      else if base.contains nearest then primaryAfter? base rest
      else none

/-- The base whose objects those of a class extend, if the places of the bases fit together. A
class without bases extends nothing. -/
def primary? : List Lineage → Option Lineage
  | [] => some []
  | base :: rest => primaryAfter? base rest

/-- The names that a class opens, if it lists the given places: those it lists itself, and those
that only another base than the primary one provides. Without a list all are open. -/
def opened (primary : Lineage) (bases : List Lineage) (names? : Option (List Text)) : List Text :=
  openings.filter fun opening =>
    !primary.any (Ancestor.provides opening) &&
      match names? with
      | none => true
      | some names =>
        names.contains opening || bases.any fun base => base.any (Ancestor.provides opening)

/-- The members of a class together with the places it lists, and the names that it opens. -/
def complete (className : Text) (bases : List Lineage) (members : OrderedMap Text Member) :
    Except Fault (OrderedMap Text Member × List Text) :=
  match primary? bases with
  | none => .error .wrongType
  | some primary =>
    match listed members with
    | .error f => .error f
    | .ok none => .ok (members, opened primary bases none)
    | .ok (some names) =>
      if repeatsOpening primary names then .error .wrongType
      else
        (names.foldlM (fun ms name => place className ms members.keys name) members).map
          fun placed => (placed, opened primary bases (some names))

theorem complete_of_listed_eq_none {className : Text} {bases : List Lineage} {primary : Lineage}
    {members : OrderedMap Text Member} (hb : primary? bases = some primary)
    (h : members.get? SpecialName.slots = none) :
    complete className bases members = .ok (members, opened primary bases none) := by
  simp [complete, listed, h, hb]

end VerbDoc.Slots
