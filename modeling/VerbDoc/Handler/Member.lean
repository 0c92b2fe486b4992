import VerbDoc.Documentation.Declared
import VerbDoc.Handler.Step

/-!
# Members of handler classes

A class has methods, which may be documented, and other members, which hide inherited ones. A
method is given the object or its class, a name that is asked for, or nothing. What is an attribute
of an object and not of its class is called with no object of its own.
-/
namespace VerbDoc

/-- What a method is given when it is called on an object. -/
inductive Receiver where
  | object
  /-- The class of the object. -/
  | objectClass
  /-- The object, and a name that is asked for. Without one it cannot be called. -/
  | objectAndName
  | nothing
  deriving DecidableEq, Repr

/-- What the body of a method acts on that is called on an object with this attached to it. -/
def Receiver.host (attached : Attached) : Receiver → Host
  | .object | .objectAndName => .object attached
  | .objectClass => .handlerClass false
  | .nothing => .stranger

/-- A method with its documentation: a text, and perhaps a declaration. -/
structure Routine where
  receiver : Receiver
  text : Option Text
  declared : Option Declaration
  body : List Step

/-- A member of a class. -/
inductive Member where
  | routine (r : Routine)
  /-- Reading it runs a body and gives the result. -/
  | property (body : List Step)
  | value (v : Value)
  /-- An object that can be called but is no method. Calling it without arguments gives an empty
  object, and with any it fails. -/
  | callable
  /-- A class of its own, with a name and no members, which makes objects when it is called. -/
  | nestedClass (name : Text)
  /-- A place for an attribute that objects of the class may have. -/
  | slot

namespace Member

def isCallable : Member → Bool
  | .routine _ | .callable | .nestedClass _ => true
  | .property _ | .value _ | .slot => false

/-- The member can be called where it is an attribute of an object and not of its class. -/
def isCallableAlone : Member → Bool
  | .routine r => r.receiver != .objectClass
  | .callable | .nestedClass _ => true
  | .property _ | .value _ | .slot => false

/-- The member is a place for an attribute. -/
def isSlot : Member → Bool
  | .slot => true
  | _ => false

/-- How a call without arguments of a member ends that is an attribute of an object and not of
its class. A method that has to be given something lacks it there. -/
def callAlone : Member → Except Fault Outcome
  | .routine r =>
    match r.receiver with
    | .nothing => (Step.runAll .stranger r.body).2
    | .object | .objectClass | .objectAndName => .error .notCallable
  | .callable => .ok (.value (.object []))
  | .nestedClass name => .ok (.object name)
  | .property _ | .value _ | .slot => .error .notCallable

/-- How a call of such a member ends that is given a text: a method takes the text for its
object. -/
def callWithText : Member → Except Fault Outcome
  | .routine r =>
    match r.receiver with
    | .object => (Step.runAll .stranger r.body).2
    | .objectClass | .objectAndName | .nothing => .error .notCallable
  | _ => .error .notCallable

/-- The name of the type of a member that is an attribute of an object. -/
def typeName : Member → Text
  | .routine r =>
    match r.receiver with
    | .object | .objectAndName => "function".toList
    | .objectClass => "classmethod".toList
    | .nothing => "staticmethod".toList
  | .property _ => "property".toList
  | .value v => v.typeName
  | .callable => "CallableValue".toList
  | .nestedClass _ => "type".toList
  | .slot => "member_descriptor".toList

def attached : Member → Attached
  | .value v => .ofValue v
  | m => .other m.typeName m.callAlone

end Member

/-- A member as it is declared, with the tags of its documentation still unchecked. -/
structure MemberDeclaration where
  name : Text
  tags : Option Fields
  member : Member

/-- A class without an accepted name is refused: one with a null character has none. -/
def checkClassName (name : Text) : Except Fault Unit :=
  if name.contains '\x00' then
    .error (.rejected "type name must not contain null characters".toList)
  else .ok ()

/-- The declared member. Methods and properties may have tags, of which those of a property are
checked but not kept; whatever else has tags pays no heed to them. A class has to have a name. -/
def MemberDeclaration.check (m : MemberDeclaration) : Except Fault Member :=
  match m.tags, m.member with
  | _, .nestedClass name => (checkClassName name).map fun _ => .nestedClass name
  | some tags, .routine r =>
    (Declaration.ofTags tags).map fun declared => .routine { r with declared := some declared }
  | some tags, .property body => (Declaration.ofTags tags).map fun _ => .property body
  | _, member => .ok member

/-- The operations that every endpoint has. -/
inductive Builtin where
  | create | currentResponse | head | options | documentVerb
  deriving DecidableEq, Repr

namespace Builtin

def all : List Builtin := [.create, .currentResponse, .head, .options, .documentVerb]

def name : Builtin → Text
  | .create => "__init__".toList
  | .currentResponse => "get_response".toList
  | .head => "head".toList
  | .options => "options".toList
  | .documentVerb => "parse_method_doc".toList

def descriptionLines : Builtin → List String
  | .create =>
    ["", "        Create the endpoint.", "", "        Args:",
      "            request: Incoming request",
      "            response: Response to build on",
      "            config: Endpoint configuration, defaults to the application settings",
      "        "]
  | .currentResponse => ["Return the current response."]
  | .head =>
    ["", "        Handle HEAD requests when a GET method is implemented.", "",
      "        Headers added by GET stay on self.response, the body is dropped.", "",
      "        Returns:", "            Empty body", "", "        Raises:",
      "            MethodNotAllowed: If the endpoint has no GET method", "        "]
  | .options =>
    ["", "        Handle OPTIONS requests.", "",
      "        Adds an Allow header listing the implemented verbs and describes",
      "        each documented verb.", "", "        Returns:",
      "            OptionsDescriptor", "", "        Raises:",
      "            MethodNotAllowed: If no response is attached", "        "]
  | .documentVerb =>
    ["", "        Collect the documentation of a verb method.", "",
      "        Documentation declared with api_doc wins over docstring tags.", "",
      "        Args:", "            verb: Upper-case verb name", "", "        Returns:",
      "            Documentation mapping, empty when the method is undocumented", "        "]

def description (b : Builtin) : Text :=
  Text.ofLines b.descriptionLines

end Builtin

/-- What a name stands for in a class. -/
inductive Attribute where
  | member (m : Member)
  | builtin (b : Builtin)
  /-- Something that classes have without declaring it. It is no operation. -/
  | implied

/-- The method that an attribute is, if it is one. The operations of every endpoint are described,
and nothing is declared of them. -/
def Attribute.routine? : Attribute → Option Routine
  | .member (.routine r) => some r
  | .builtin b => some ⟨.object, some b.description, none, []⟩
  | .member _ | .implied => none

end VerbDoc
