import VerbDoc.Handler.Lineage
import VerbDoc.Text.Case
import VerbDoc.Text.Identifier

/-!
# Operations of a handler class

The operations of a class are its methods and those it inherits, without the inherited ones that
it hides. A verb is the upper case of an operation's name, if the whitelist holds it. Main
statement: the operations of a class are those it declares, followed by the inherited ones
whose names it does not define.
-/
namespace VerbDoc

/-- A method of a class under its name, with the name of the class that defines it. -/
structure Operation where
  name : Text
  owner : Text
  routine : Routine

namespace Operation

def verb (o : Operation) : Text := Text.upper o.name

def parentName : Text := "__base__".toList

def untitledNames : List Text :=
  ["__name__", "__dict__", "__mro__", "__bases__", "__basicsize__", "__itemsize__", "__flags__",
   "__weakrefoffset__", "__dictoffset__"].map String.toList

/-- The name under which a class tells how it is called, which is nothing. -/
def signatureName : Text := "__text_signature__".toList

/-- The name under which a class tells what it has yet to define, if it says so itself. -/
def openName : Text := "__abstractmethods__".toList

/-- The operation is given as it stands in its class under these names, with nothing bound to
it. -/
def unboundNames : List Text := [SpecialName.home, openName]

/-- All names under which a class may give something else than the operation, or none. -/
def classNames : List Text :=
  SpecialName.objectClass :: parentName :: signatureName :: SpecialName.types ::
    (untitledNames ++ unboundNames)

end Operation

/-! ## What documents the things that a class tells of itself -/

namespace TypeText

def ofClasses : Text :=
  Text.ofLines
    ["type(object) -> the object's type", "type(name, bases, dict, **kwds) -> a new type"]

def ofTexts : Text :=
  Text.ofLines
    ["str(object='') -> str", "str(bytes_or_buffer[, encoding[, errors]]) -> str", "",
     "Create a new string object from the given object. If encoding or",
     "errors is specified, then the object must expose a data buffer",
     "that will be decoded using the given encoding and error handler.",
     "Otherwise, returns the result of object.__str__() (if defined)", "or repr(object).",
     "encoding defaults to sys.getdefaultencoding().", "errors defaults to 'strict'."]

def ofSequences : Text :=
  Text.ofLines
    ["Built-in immutable sequence.", "",
     "If no argument is given, the constructor returns an empty tuple.",
     "If iterable is specified the tuple is initialized from iterable's items.", "",
     "If the argument is a tuple, the return value is the same object."]

def ofNumbers : Text :=
  Text.ofLines
    ["int([x]) -> integer", "int(x, base=10) -> integer", "",
     "Convert a number or string to an integer, or return 0 if no arguments",
     "are given.  If x is a number, return x.__int__().  For floating point",
     "numbers, this truncates towards zero.", "",
     "If x is not a number or if base is given, then x must be a string,",
     "bytes, or bytearray instance representing an integer literal in the",
     "given base.  The literal can be preceded by '+' or '-' and be surrounded",
     "by whitespace.  The base defaults to 10.  Valid bases are 0 and 2-36.",
     "Base 0 means to interpret the base from the string as an integer literal.",
     ">>> int('0b100', base=0)", "4"]

def ofRecords : Text :=
  Text.ofLines
    ["dict() -> new empty dictionary",
     "dict(mapping) -> new dictionary initialized from a mapping object's",
     "    (key, value) pairs", "dict(iterable) -> new dictionary initialized as if via:",
     "    d = \x7b\x7d", "    for k, v in iterable:", "        d[k] = v",
     "dict(**kwargs) -> new dictionary initialized with the name=value pairs",
     "    in the keyword argument list.  For example:  dict(one=1, two=2)"]

end TypeText

namespace Operation

/-- What a class tells of itself under such a name is documented by this text, if it is by any. -/
def untitledText? (name : Text) : Option Text :=
  if name == SpecialName.types then some TypeText.ofRecords
  else if name == SpecialName.attributes then none
  else if name == "__name__".toList then some TypeText.ofTexts
  else if name == "__mro__".toList || name == "__bases__".toList then some TypeText.ofSequences
  else some TypeText.ofNumbers

end Operation

/-- The routine with nothing bound to it. One that is not given the object does not show what is
declared of it. -/
def Routine.unbound (r : Routine) : Routine :=
  match r.receiver with
  | .object | .objectAndName => r
  | .objectClass | .nothing => { r with declared := none }

/-- What a class gives under the name of one of its operations. -/
inductive Reached where
  | operation (o : Operation)
  /-- The base of the class. -/
  | parent (p : Parent)
  /-- Something else that has a title, with the text that documents it. -/
  | titled (title : Text) (text : Option Text)
  /-- Something that has no title. -/
  | untitled (text : Option Text)
  | nothing


namespace Reached

/-- The title of what a class gives, if it gives anything: an operation with the class that defines
it. -/
def title? : Reached → Except Fault (Option Text)
  | .operation o => .ok (some (o.owner ++ '.' :: o.name))
  | .parent p => .ok (some p.title)
  | .titled title _ => .ok (some title)
  | .untitled _ => .error .missingAttribute
  | .nothing => .ok none

def text : Reached → Except Fault (Option Text)
  | .operation o => .ok o.routine.text
  | .parent p => p.text
  | .titled _ text | .untitled text => .ok text
  | .nothing => .ok none

def declared : Reached → Except Fault (Option Declaration)
  | .operation o => .ok o.routine.declared
  | .parent p => if p.isMisdeclared then .error .missingAttribute else .ok none
  | .titled _ _ | .untitled _ | .nothing => .ok none

end Reached

namespace Lineage

def ownOperations (hidden : List Text) (c : Ancestor) : List Operation :=
  c.attributes.filterMap fun e =>
    if hidden.contains e.1 then none else e.2.routine?.map fun r => ⟨e.1, c.name, r⟩

/-- The operations of a lineage whose names are not hidden. Every attribute of a class hides its
name in the classes after it. -/
def operationsBeyond (hidden : List Text) : Lineage → List Operation
  | [] => []
  | c :: rest =>
    ownOperations hidden c ++ operationsBeyond (hidden ++ c.attributes.map Prod.fst) rest

/-- The operations of a class, the nearest class first and in the order of declaration. -/
def operations (l : Lineage) : List Operation := operationsBeyond [] l

/-- The verbs of the whitelist that a class implements, in the order of its operations. -/
def verbs (l : Lineage) (whitelist : List Text) : List Text :=
  (l.operations.map Operation.verb).filter whitelist.contains

def operation? (l : Lineage) (verb : Text) : Option Operation :=
  l.operations.find? fun o => o.verb == verb

def parent (l : Lineage) : Parent := (l.head?.map Ancestor.parent).getD .object

def hasSignature (l : Lineage) : Bool :=
  match l.own? SpecialName.description with
  | some (.member (.value (.text t))) => Text.hasSignature t l.className
  | _ => false

/-- Going through the operations ends where the class withholds one. -/
def withholds (l : Lineage) (o : Operation) : Bool :=
  o.name == Operation.openName && (l.own? o.name).isNone

/-- Coming upon the operation makes the class keep a record of the types of its attributes. -/
def typesAt (l : Lineage) (o : Operation) : Bool :=
  o.name == SpecialName.types && (l.own? o.name).isNone

/-- Going through these operations, as far as the class lets one, makes it keep a record of the
types of its attributes. -/
def keepsTypesAfter (l : Lineage) (passed : List Operation) : Bool :=
  (passed.takeWhile fun o => !l.withholds o).any l.typesAt

def afterPassing (l : Lineage) (passed : List Operation) : Lineage :=
  if l.keepsTypesAfter passed then l.keepTypes else l

/-- The operations that are looked at to find the one that stands for a verb. -/
def passed (l : Lineage) (verb : Text) : List Operation :=
  (l.operations.takeWhile fun o => o.verb != verb) ++ (l.operation? verb).toList

/-- The first operation that stands for a verb, unless one is withheld before it is found. -/
def search (l : Lineage) (verb : Text) : Except Fault (Option Operation) :=
  if (l.passed verb).any l.withholds then .error .missingAttribute else .ok (l.operation? verb)

/-- What a class gives for one of its operations. Under some names it tells something of itself,
whatever its members are. -/
def reach (l : Lineage) (o : Operation) : Reached :=
  if o.name == SpecialName.objectClass then .titled "type".toList (some TypeText.ofClasses)
  else if o.name == Operation.parentName then .parent l.parent
  else if o.name == Operation.signatureName then
    if l.hasSignature then .untitled (some TypeText.ofTexts) else .nothing
  else if Operation.untitledNames.contains o.name || l.typesAt o then
    .untitled (Operation.untitledText? o.name)
  else if Operation.unboundNames.contains o.name then
    .operation { o with routine := o.routine.unbound }
  else .operation o

def operationTitle? (l : Lineage) (verb : Text) : Except Fault (Option Text) := do
  match ← l.search verb with
  | none => return none
  | some o => (l.reach o).title?

def titledOperations (l : Lineage) : Except Fault (List (Text × Option Text)) :=
  l.operations.mapM fun o =>
    if l.withholds o then .error .missingAttribute
    else (l.reach o).title?.map fun title => (o.name, title)

/-- A lineage none of whose operations goes by a name with a meaning to the class. -/
def IsPlain (l : Lineage) : Prop := ∀ o ∈ l.operations, o.name ∉ Operation.classNames

theorem mem_operations_of_mem_passed {l : Lineage} {verb : Text} {o : Operation}
    (h : o ∈ l.passed verb) : o ∈ l.operations := by
  rw [passed, List.mem_append, Option.mem_toList] at h
  rcases h with h | h
  · exact List.takeWhile_subset _ h
  · exact List.mem_of_find?_eq_some h

/-- Where nothing is withheld, the first operation that stands for a verb is found. -/
theorem search_of_not_withholds {l : Lineage} (h : ∀ o ∈ l.operations, l.withholds o = false)
    (verb : Text) : l.search verb = .ok (l.operation? verb) := by
  rw [search, if_neg]
  simp only [List.any_eq_true, not_exists, not_and]
  intro o ho
  simp [h o (mem_operations_of_mem_passed ho)]

/-- An operation under a name without a meaning to the class is given as it is. -/
theorem reach_of_not_mem (l : Lineage) {o : Operation} (h : o.name ∉ Operation.classNames) :
    l.reach o = .operation o := by
  simp only [Operation.classNames, List.mem_cons, List.mem_append, not_or] at h
  simp [reach, typesAt, h]

/-- A class that keeps a record of types already, or comes upon no operation of that name, stays
as it is. -/
theorem afterPassing_of_not_typesAt {l : Lineage} {ops : List Operation}
    (h : ∀ o ∈ ops, l.typesAt o = false) : l.afterPassing ops = l := by
  rw [afterPassing, if_neg]
  simp only [keepsTypesAfter, List.any_eq_true, not_exists, not_and]
  intro o ho
  simp [h o (List.takeWhile_subset _ ho)]

namespace IsPlain

variable {l : Lineage}

end IsPlain

theorem mem_whitelist_of_mem_verbs {l : Lineage} {whitelist : List Text} {v : Text}
    (h : v ∈ l.verbs whitelist) : v ∈ whitelist := by
  simpa using (List.mem_filter.1 h).2

/-- Only the set of hidden names matters. -/
theorem operationsBeyond_congr {a b : List Text} (h : ∀ n, n ∈ a ↔ n ∈ b) (l : Lineage) :
    operationsBeyond a l = operationsBeyond b l := by
  induction l generalizing a b with
  | nil => rfl
  | cons c rest ih =>
    have hnext : ∀ n, n ∈ a ++ c.attributes.map Prod.fst ↔ n ∈ b ++ c.attributes.map Prod.fst := by
      intro n
      rw [List.mem_append, List.mem_append, h]
    rw [operationsBeyond, operationsBeyond, ih hnext]
    simp only [ownOperations, List.contains_iff_mem, h]

/-- Hiding more names drops the operations of those names and keeps the others in order. -/
theorem operationsBeyond_append (hidden more : List Text) (l : Lineage) :
    operationsBeyond (hidden ++ more) l =
      (operationsBeyond hidden l).filter fun o => !more.contains o.name := by
  induction l generalizing hidden with
  | nil => rfl
  | cons c rest ih =>
    have hown : ownOperations (hidden ++ more) c =
        (ownOperations hidden c).filter fun o => !more.contains o.name := by
      unfold ownOperations
      rw [List.filter_filterMap]
      congr 1
      funext e
      by_cases h1 : e.1 ∈ hidden <;> by_cases h2 : e.1 ∈ more <;>
        cases h3 : e.2.routine? <;> simp [h1, h2, Option.filter]
    have hswap : operationsBeyond (hidden ++ more ++ c.attributes.map Prod.fst) rest =
        operationsBeyond (hidden ++ c.attributes.map Prod.fst ++ more) rest :=
      operationsBeyond_congr (fun n => by simp only [List.mem_append]; exact or_right_comm) rest
    rw [operationsBeyond, operationsBeyond, List.filter_append, ← hown, hswap, ih]

/-- The operations of a class are those it declares and the inherited ones it does not hide. -/
theorem operations_cons (c : Ancestor) (l : Lineage) :
    operations (c :: l) = ownOperations [] c ++
      (operations l).filter fun o => !(c.attributes.map Prod.fst).contains o.name := by
  rw [operations, operationsBeyond, operations, operationsBeyond_append]

end Lineage
end VerbDoc
