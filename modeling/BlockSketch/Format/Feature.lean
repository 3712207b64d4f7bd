import BlockSketch.Format.Kind

/-!
# BlockSketch.Format.Feature

The features by which the values of a kind can be asked for more: attributes,
methods and operations.  A kind has its own and those of the kinds that it is a
special case of.
-/

namespace BlockSketch.Format

inductive FeatureSort where
  | attribute
  | method
  -- what an operator of expressions does with a value
  | operator
  -- something that the kind itself can do
  | shared
deriving DecidableEq, Repr

namespace Kind

/-- The attributes that a kind adds. -/
def attributes : Kind → List String
  | .whole => ["real", "imag", "numerator", "denominator"]
  | .decimal => ["real", "imag"]
  | _ => []

/-- The methods that a kind adds. -/
def methods : Kind → List String
  | .whole =>
    ["conjugate", "bit_length", "bit_count", "to_bytes", "as_integer_ratio", "__trunc__",
     "__floor__", "__ceil__", "__round__", "__getnewargs__", "__format__", "__sizeof__"]
  | .decimal =>
    ["conjugate", "__trunc__", "__floor__", "__ceil__", "__round__", "as_integer_ratio", "hex",
     "is_integer", "__getnewargs__", "__format__"]
  | .text =>
    ["encode", "replace", "split", "rsplit", "join", "capitalize", "casefold", "title",
     "center", "count", "expandtabs", "find", "partition", "index", "ljust", "lower", "lstrip",
     "rfind", "rindex", "rjust", "rstrip", "rpartition", "splitlines", "strip", "swapcase",
     "translate", "upper", "startswith", "endswith", "removeprefix", "removesuffix", "isascii",
     "islower", "isupper", "istitle", "isspace", "isdecimal", "isdigit", "isnumeric",
     "isalpha", "isalnum", "isidentifier", "isprintable", "zfill", "format", "format_map",
     "__format__", "__sizeof__", "__getnewargs__"]
  | .list =>
    ["__getitem__", "__reversed__", "__sizeof__", "clear", "copy", "append", "insert",
     "extend", "pop", "remove", "index", "count", "reverse", "sort"]
  | .dict =>
    ["__getitem__", "__contains__", "__sizeof__", "get", "setdefault", "pop", "popitem",
     "keys", "items", "values", "update", "clear", "copy", "__reversed__"]
  | .kind =>
    ["mro", "__subclasses__", "__instancecheck__", "__subclasscheck__", "__dir__", "__sizeof__"]
  | .root =>
    ["__reduce_ex__", "__reduce__", "__getstate__", "__format__", "__sizeof__", "__dir__"]
  | _ => []

/-- The operations that a kind adds and that the operators of expressions stand for. -/
def operators : Kind → List String
  | .absent => ["__repr__", "__bool__"]
  | .truth => ["__repr__", "__and__", "__rand__", "__xor__", "__rxor__", "__or__", "__ror__"]
  | .whole =>
    ["__repr__", "__hash__", "__getattribute__", "__lt__", "__le__", "__eq__", "__ne__",
     "__gt__", "__ge__", "__add__", "__radd__", "__sub__", "__rsub__", "__mul__", "__rmul__",
     "__mod__", "__rmod__", "__divmod__", "__rdivmod__", "__pow__", "__rpow__", "__neg__",
     "__pos__", "__abs__", "__bool__", "__invert__", "__lshift__", "__rlshift__", "__rshift__",
     "__rrshift__", "__and__", "__rand__", "__xor__", "__rxor__", "__or__", "__ror__",
     "__int__", "__float__", "__floordiv__", "__rfloordiv__", "__truediv__", "__rtruediv__",
     "__index__"]
  | .decimal =>
    ["__repr__", "__hash__", "__getattribute__", "__lt__", "__le__", "__eq__", "__ne__",
     "__gt__", "__ge__", "__add__", "__radd__", "__sub__", "__rsub__", "__mul__", "__rmul__",
     "__mod__", "__rmod__", "__divmod__", "__rdivmod__", "__pow__", "__rpow__", "__neg__",
     "__pos__", "__abs__", "__bool__", "__int__", "__float__", "__floordiv__", "__rfloordiv__",
     "__truediv__", "__rtruediv__"]
  | .text =>
    ["__repr__", "__hash__", "__str__", "__getattribute__", "__lt__", "__le__", "__eq__",
     "__ne__", "__gt__", "__ge__", "__iter__", "__mod__", "__rmod__", "__len__", "__getitem__",
     "__add__", "__mul__", "__rmul__", "__contains__"]
  | .list =>
    ["__repr__", "__getattribute__", "__lt__", "__le__", "__eq__", "__ne__", "__gt__",
     "__ge__", "__iter__", "__init__", "__len__", "__setitem__", "__delitem__", "__add__",
     "__mul__", "__rmul__", "__contains__", "__iadd__", "__imul__"]
  | .dict =>
    ["__repr__", "__getattribute__", "__lt__", "__le__", "__eq__", "__ne__", "__gt__",
     "__ge__", "__iter__", "__init__", "__or__", "__ror__", "__ior__", "__len__",
     "__setitem__", "__delitem__"]
  | .kind =>
    ["__repr__", "__call__", "__getattribute__", "__setattr__", "__delattr__", "__init__",
     "__or__", "__ror__"]
  | .root =>
    ["__repr__", "__hash__", "__str__", "__getattribute__", "__setattr__", "__delattr__",
     "__lt__", "__le__", "__eq__", "__ne__", "__gt__", "__ge__", "__init__"]
  | _ => []

/-- The functions that a kind itself has, and its values only through it. -/
def shared : Kind → List String
  | .absent => ["__new__"]
  | .truth => ["__new__"]
  | .whole => ["__new__", "from_bytes"]
  | .decimal => ["__new__", "fromhex", "__getformat__"]
  | .text => ["__new__", "maketrans"]
  | .list => ["__new__", "__class_getitem__"]
  | .dict => ["__new__", "fromkeys", "__class_getitem__"]
  | .kind => ["__new__", "__prepare__"]
  | .root => ["__new__", "__subclasshook__", "__init_subclass__"]
  | _ => []

/-- The sort of a feature that a kind adds. -/
def added? (k : Kind) (name : String) : Option FeatureSort :=
  if k.attributes.contains name then some .attribute
  else if k.methods.contains name then some .method
  else if k.operators.contains name then some .operator
  else if k.shared.contains name then some .shared
  else none

/-- The sort of a feature and the kind that adds it. -/
def feature? (k : Kind) (name : String) : Option (FeatureSort × Kind) :=
  k.line.findSome? fun owner => (owner.added? name).map fun sort => (sort, owner)

/-- Whether values of a kind are no keys of tables. -/
def isNoKey (k : Kind) : Bool := k = .list || k = .dict

end Kind

end BlockSketch.Format
