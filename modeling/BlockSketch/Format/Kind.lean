import BlockSketch.Value.Basic

/-!
# BlockSketch.Format.Kind

The kinds of what a field of a template can reach.  A kind has a name, may be a
special case of another, and says of itself what it is.
-/

namespace BlockSketch.Format

/-- The kind of something that a field reaches. -/
inductive Kind where
  | absent
  | truth
  | whole
  | decimal
  | text
  | list
  | dict
  | kind
  -- rows of kinds
  | row
  -- kinds with an argument
  | variant
  | method
  | operator
  | kindMethod
  | kindOperator
  | kindAttribute
  -- the kind of everything
  | root
deriving DecidableEq, Repr, Inhabited

namespace Kind

def ofValue : Value → Kind
  | .null => .absent
  | .bool _ => .truth
  | .int _ => .whole
  | .float _ | .undefined _ => .decimal
  | .text _ => .text
  | .list _ => .list
  | .dict _ => .dict

def name : Kind → String
  | .absent => "NoneType"
  | .truth => "bool"
  | .whole => "int"
  | .decimal => "float"
  | .text => "str"
  | .list => "list"
  | .dict => "dict"
  | .kind => "type"
  | .row => "tuple"
  | .variant => "GenericAlias"
  | .method => "builtin_function_or_method"
  | .operator => "method-wrapper"
  | .kindMethod => "method_descriptor"
  | .kindOperator => "wrapper_descriptor"
  | .kindAttribute => "getset_descriptor"
  | .root => "object"

/-- The name of the collection that a kind belongs to. -/
def collection : Kind → String
  | .variant => "types"
  | _ => "builtins"

/-- A kind as a text; the collection that most kinds belong to is left out. -/
def shown (k : Kind) : String :=
  let full := if k.collection == "builtins" then k.name else k.collection ++ "." ++ k.name
  "<class '" ++ full ++ "'>"

/-- The kind that a kind is a special case of. -/
def parent? : Kind → Option Kind
  | .root => none
  | .truth => some .whole
  | _ => some .root

/-- A kind and those that it is a special case of, nearest first. -/
def line : Kind → List Kind
  | .root => [.root]
  | .truth => [.truth, .whole, .root]
  | k => [k, .root]

/-- Whether a kind takes an argument in square brackets. -/
def takesArgument (k : Kind) : Bool := k = .list || k = .dict || k = .kind || k = .row

/-- What a kind says of itself. -/
def summary? : Kind → Option Text
  | .truth => some (
      "bool(x) -> bool\n\nReturns True when the argument x is true, False otherwise.\n" ++
      "The builtins True and False are the only two instances of the class bool.\n" ++
      "The class bool is a subclass of the class int, and cannot be subclassed.")
  | .whole => some (
      "int([x]) -> integer\nint(x, base=10) -> integer\n\n" ++
      "Convert a number or string to an integer, or return 0 if no arguments\n" ++
      "are given.  If x is a number, return x.__int__().  For floating point\n" ++
      "numbers, this truncates towards zero.\n\n" ++
      "If x is not a number or if base is given, then x must be a string,\n" ++
      "bytes, or bytearray instance representing an integer literal in the\n" ++
      "given base.  The literal can be preceded by '+' or '-' and be surrounded\n" ++
      "by whitespace.  The base defaults to 10.  Valid bases are 0 and 2-36.\n" ++
      "Base 0 means to interpret the base from the string as an integer literal.\n" ++
      ">>> int('0b100', base=0)\n4")
  | .decimal => some "Convert a string or number to a floating point number, if possible."
  | .text => some (
      "str(object='') -> str\nstr(bytes_or_buffer[, encoding[, errors]]) -> str\n\n" ++
      "Create a new string object from the given object. If encoding or\n" ++
      "errors is specified, then the object must expose a data buffer\n" ++
      "that will be decoded using the given encoding and error handler.\n" ++
      "Otherwise, returns the result of object.__str__() (if defined)\nor repr(object).\n" ++
      "encoding defaults to sys.getdefaultencoding().\nerrors defaults to 'strict'.")
  | .list => some (
      "Built-in mutable sequence.\n\n" ++
      "If no argument is given, the constructor creates a new empty list.\n" ++
      "The argument must be an iterable if specified.")
  | .dict => some (
      "dict() -> new empty dictionary\n" ++
      "dict(mapping) -> new dictionary initialized from a mapping object's\n" ++
      "    (key, value) pairs\ndict(iterable) -> new dictionary initialized as if via:\n" ++
      "    d = \x7b\x7d\n    for k, v in iterable:\n        d[k] = v\n" ++
      "dict(**kwargs) -> new dictionary initialized with the name=value pairs\n" ++
      "    in the keyword argument list.  For example:  dict(one=1, two=2)")
  | .kind => some "type(object) -> the object's type\ntype(name, bases, dict, **kwds) -> a new type"
  | .root => some (
      "The base class of the class hierarchy.\n\n" ++
      "When called, it accepts no arguments and returns a new featureless\n" ++
      "instance that has no instance attributes and cannot be given any.\n")
  | .row => some (
      "Built-in immutable sequence.\n\n" ++
      "If no argument is given, the constructor returns an empty tuple.\n" ++
      "If iterable is specified the tuple is initialized from iterable's items.\n\n" ++
      "If the argument is a tuple, the return value is the same object.")
  | _ => none

end Kind

end BlockSketch.Format
