import VerbDoc.Value.Basic

/-!
# The operations of values

The operations that values of each type come with, by name. They stand for verbs where a value
takes the place of a handler.
-/
namespace VerbDoc.Value

def nullOperations : List Text :=
  ["__new__", "__repr__", "__bool__"].map String.toList

def intOperations : List Text :=
  ["__new__", "__repr__", "__hash__", "__getattribute__", "__lt__", "__le__", "__eq__",
   "__ne__", "__gt__", "__ge__", "__add__", "__radd__", "__sub__", "__rsub__", "__mul__",
   "__rmul__", "__mod__", "__rmod__", "__divmod__", "__rdivmod__", "__pow__", "__rpow__",
   "__neg__", "__pos__", "__abs__", "__bool__", "__invert__", "__lshift__", "__rlshift__",
   "__rshift__", "__rrshift__", "__and__", "__rand__", "__xor__", "__rxor__", "__or__",
   "__ror__", "__int__", "__float__", "__floordiv__", "__rfloordiv__", "__truediv__",
   "__rtruediv__", "__index__", "conjugate", "bit_length", "bit_count", "to_bytes",
   "from_bytes", "as_integer_ratio", "__trunc__", "__floor__", "__ceil__", "__round__",
   "__getnewargs__", "__format__", "__sizeof__"].map String.toList

def boolOperations : List Text :=
  ["__new__", "__repr__", "__and__", "__rand__", "__xor__", "__rxor__", "__or__",
   "__ror__"].map String.toList

def floatOperations : List Text :=
  ["__new__", "__repr__", "__hash__", "__getattribute__", "__lt__", "__le__", "__eq__",
   "__ne__", "__gt__", "__ge__", "__add__", "__radd__", "__sub__", "__rsub__", "__mul__",
   "__rmul__", "__mod__", "__rmod__", "__divmod__", "__rdivmod__", "__pow__", "__rpow__",
   "__neg__", "__pos__", "__abs__", "__bool__", "__int__", "__float__", "__floordiv__",
   "__rfloordiv__", "__truediv__", "__rtruediv__", "conjugate", "__trunc__", "__floor__",
   "__ceil__", "__round__", "as_integer_ratio", "fromhex", "hex", "is_integer",
   "__getnewargs__", "__getformat__", "__format__"].map String.toList

def textOperations : List Text :=
  ["__new__", "__repr__", "__hash__", "__str__", "__getattribute__", "__lt__", "__le__",
   "__eq__", "__ne__", "__gt__", "__ge__", "__iter__", "__mod__", "__rmod__", "__len__",
   "__getitem__", "__add__", "__mul__", "__rmul__", "__contains__", "encode", "replace",
   "split", "rsplit", "join", "capitalize", "casefold", "title", "center", "count",
   "expandtabs", "find", "partition", "index", "ljust", "lower", "lstrip", "rfind", "rindex",
   "rjust", "rstrip", "rpartition", "splitlines", "strip", "swapcase", "translate", "upper",
   "startswith", "endswith", "removeprefix", "removesuffix", "isascii", "islower", "isupper",
   "istitle", "isspace", "isdecimal", "isdigit", "isnumeric", "isalpha", "isalnum",
   "isidentifier", "isprintable", "zfill", "format", "format_map", "__format__", "maketrans",
   "__sizeof__", "__getnewargs__"].map String.toList

def listOperations : List Text :=
  ["__new__", "__repr__", "__getattribute__", "__lt__", "__le__", "__eq__", "__ne__", "__gt__",
   "__ge__", "__iter__", "__init__", "__len__", "__getitem__", "__setitem__", "__delitem__",
   "__add__", "__mul__", "__rmul__", "__contains__", "__iadd__", "__imul__", "__reversed__",
   "__sizeof__", "clear", "copy", "append", "insert", "extend", "pop", "remove", "index",
   "count", "reverse", "sort", "__class_getitem__"].map String.toList

def objectOperations : List Text :=
  ["__new__", "__repr__", "__getattribute__", "__lt__", "__le__", "__eq__", "__ne__", "__gt__",
   "__ge__", "__iter__", "__init__", "__or__", "__ror__", "__ior__", "__len__", "__getitem__",
   "__setitem__", "__delitem__", "__contains__", "__sizeof__", "get", "setdefault", "pop",
   "popitem", "keys", "items", "values", "update", "fromkeys", "clear", "copy", "__reversed__",
   "__class_getitem__"].map String.toList

def functionOperations : List Text :=
  ["__new__", "__repr__", "__call__", "__get__"].map String.toList

/-- The names of a value's operations in order. A truth value is a number too, and has the
operations of one behind its own. -/
def operationNames : Value → List Text
  | .null => nullOperations
  | .bool _ => boolOperations ++ intOperations.filter fun name => !boolOperations.contains name
  | .int _ => intOperations
  | .float _ => floatOperations
  | .text _ => textOperations
  | .list _ => listOperations
  | .object _ => objectOperations

end VerbDoc.Value
