import VerbDoc.Documentation.Declared
import VerbDoc.Message.Attached

/-!
# The answer to OPTIONS

An endpoint answers OPTIONS with its media types and the documentation of its verbs. The body
mentions the methods only where one of them is documented.
-/
namespace VerbDoc

/-- What is said of a verb: its documentation, or whatever a call gives in its place. -/
inductive Documented where
  | documentation (doc : Documentation)
  | given (o : Outcome)

namespace Documented

def isEmpty : Documented → Bool
  | .documentation doc => doc.isEmpty
  | .given (.value v) => !v.isTruthy
  | .given _ => false

/-- What is said, as entries. Of values only objects have any. -/
def entries : Documented → Except Fault (List (Text × Value))
  | .documentation doc => .ok (doc.mapValues TagValue.toValue).entries
  | .given (.value (.object members)) => .ok members
  | .given _ => .error .missingAttribute

end Documented

/-- What an endpoint says of itself. -/
structure Descriptor where
  contentTypes : List Text
  acceptTypes : List Text
  methods : OrderedMap Text Documented

/-- A part of the body of an answer to OPTIONS. -/
inductive BodyPart where
  | texts (ts : List Text)
  | methods (ms : OrderedMap Text Documented)

def Value.asTag? : Value → Option TagValue
  | .text t => some (.single t)
  | v => (Value.asTexts? v).map .many

namespace Descriptor

/-- The descriptor with the given fields. The media types go by the names of their headers, or by
plain names. -/
def ofFields (fields : Fields) : Except Fault Descriptor :=
  Checked.toExcept <|
    Descriptor.mk
      <$> fields.checkEither "Content-Type".toList "content_type".toList Value.asTexts? []
      <*> fields.checkEither "Accept".toList "accept".toList Value.asTexts? []
      <*> fields.check "methods".toList
        (Value.asMapping? fun v => (Value.asMapping? Value.asTag? v).map .documentation) ∅

def document (d : Descriptor) (verb : Text) (doc : Documented) : Descriptor :=
  { d with methods := d.methods.insert verb doc }

/-- What is said of every verb has entries, so that the descriptor can be shown. -/
def isShowable (d : Descriptor) : Bool :=
  d.methods.entries.all fun e => e.2.entries.toOption.isSome

/-- The body of the answer. The methods are left out when there are none. -/
def body (d : Descriptor) : List (Text × BodyPart) :=
  [("Content-Type".toList, .texts d.contentTypes), ("Accept".toList, .texts d.acceptTypes)] ++
    if d.methods.isEmpty then [] else [("methods".toList, .methods d.methods)]

end Descriptor
end VerbDoc
