import Assay.Data

/-! # What belongs to values by their kind

The names under which values of a kind offer functions, those that every kind offers, and the
descriptions of the kinds.
-/

namespace Assay.Data

def words (s : String) : List String := (s.toList.splitOn ' ').map String.ofList

def commonFunctions : String :=
  "__dir__ __format__ __getstate__ __init_subclass__ __new__ __reduce__ __reduce_ex__ " ++
    "__sizeof__ __subclasshook__"

def commonOperators : String :=
  "__delattr__ __eq__ __ge__ __getattribute__ __gt__ __init__ __le__ __lt__ __ne__ " ++
    "__repr__ __setattr__ __str__"

/-- The functions that values of a kind offer beside the common ones. -/
def functionNames : Data → String
  | bool _ | int _ =>
    "__ceil__ __floor__ __getnewargs__ __round__ __trunc__ as_integer_ratio bit_count " ++
      "bit_length conjugate from_bytes to_bytes"
  | float _ =>
    "__ceil__ __floor__ __getformat__ __getnewargs__ __round__ __trunc__ " ++
      "as_integer_ratio conjugate fromhex hex is_integer"
  | complex _ _ =>
    "__complex__ __getnewargs__ conjugate"
  | text _ | codes _ =>
    "__getnewargs__ capitalize casefold center count encode endswith expandtabs find " ++
      "format format_map index isalnum isalpha isascii isdecimal isdigit isidentifier " ++
      "islower isnumeric isprintable isspace istitle isupper join ljust lower lstrip " ++
      "maketrans partition removeprefix removesuffix replace rfind rindex rjust " ++
      "rpartition rsplit rstrip split splitlines startswith strip swapcase title " ++
      "translate upper zfill"
  | bytes _ =>
    "__bytes__ __getnewargs__ capitalize center count decode endswith expandtabs find " ++
      "fromhex hex index isalnum isalpha isascii isdigit islower isspace istitle isupper " ++
      "join ljust lower lstrip maketrans partition removeprefix removesuffix replace " ++
      "rfind rindex rjust rpartition rsplit rstrip split splitlines startswith strip " ++
      "swapcase title translate upper zfill"
  | list _ =>
    "__class_getitem__ __getitem__ __reversed__ append clear copy count extend index " ++
      "insert pop remove reverse sort"
  | tuple _ =>
    "__class_getitem__ __getnewargs__ count index"
  | mapping _ | view _ =>
    "__class_getitem__ __contains__ __getitem__ __reversed__ clear copy fromkeys get " ++
      "items keys pop popitem setdefault update values"
  | pattern _ _ _ =>
    "__class_getitem__ __copy__ __deepcopy__ findall split"
  | _ => ""

def operatorNames : Data → String
  | null =>
    "__bool__ __hash__"
  | bool _ | int _ =>
    "__abs__ __add__ __and__ __bool__ __divmod__ __float__ __floordiv__ __hash__ " ++
      "__index__ __int__ __invert__ __lshift__ __mod__ __mul__ __neg__ __or__ __pos__ " ++
      "__pow__ __radd__ __rand__ __rdivmod__ __rfloordiv__ __rlshift__ __rmod__ __rmul__ " ++
      "__ror__ __rpow__ __rrshift__ __rshift__ __rsub__ __rtruediv__ __rxor__ __sub__ " ++
      "__truediv__ __xor__"
  | float _ =>
    "__abs__ __add__ __bool__ __divmod__ __float__ __floordiv__ __hash__ __int__ " ++
      "__mod__ __mul__ __neg__ __pos__ __pow__ __radd__ __rdivmod__ __rfloordiv__ " ++
      "__rmod__ __rmul__ __rpow__ __rsub__ __rtruediv__ __sub__ __truediv__"
  | complex _ _ =>
    "__abs__ __add__ __bool__ __hash__ __mul__ __neg__ __pos__ __pow__ __radd__ " ++
      "__rmul__ __rpow__ __rsub__ __rtruediv__ __sub__ __truediv__"
  | text _ | codes _ =>
    "__add__ __contains__ __getitem__ __hash__ __iter__ __len__ __mod__ __mul__ " ++
      "__rmod__ __rmul__"
  | bytes _ =>
    "__add__ __contains__ __getitem__ __hash__ __iter__ __len__ __mod__ __mul__ " ++
      "__rmod__ __rmul__"
  | list _ =>
    "__add__ __contains__ __delitem__ __iadd__ __imul__ __iter__ __len__ __mul__ " ++
      "__rmul__ __setitem__"
  | tuple _ =>
    "__add__ __contains__ __getitem__ __hash__ __iter__ __len__ __mul__ __rmul__"
  | mapping _ | view _ =>
    "__delitem__ __ior__ __iter__ __len__ __or__ __ror__ __setitem__"
  | pattern _ _ _ =>
    "__hash__"
  | _ => ""

def searchNames : Data → String
  | pattern _ _ _ =>
    "finditer fullmatch match scanner search sub subn"
  | _ => ""

def description : Data → String
  | bool _ =>
    "bool(x) -> bool\n\nReturns True when the argument x is true, False otherwise.\n" ++
    "The builtins True and False are the only two instances of the class bool.\n" ++
    "The class bool is a subclass of the class int, and cannot be subclassed."
  | int _ =>
    "int([x]) -> integer\nint(x, base=10) -> integer\n\nConvert a number or string " ++
    "to an integer, or return 0 if no arguments\nare given.  If x is a number, " ++
    "return x.__int__().  For floating point\nnumbers, this truncates towards " ++
    "zero.\n\nIf x is not a number or if base is given, then x must be a string,\n" ++
    "bytes, or bytearray instance representing an integer literal in the\ngiven " ++
    "base.  The literal can be preceded by '+' or '-' and be surrounded\nby " ++
    "whitespace.  The base defaults to 10.  Valid bases are 0 and 2-36.\nBase 0 " ++
    "means to interpret the base from the string as an integer literal.\n>>> " ++
    "int('0b100', base=0)\n4"
  | float _ =>
    "Convert a string or number to a floating point number, if possible."
  | complex _ _ =>
    "Create a complex number from a real part and an optional imaginary part.\n\n" ++
    "This is equivalent to (real + imag*1j) where imag defaults to 0."
  | text _ | codes _ =>
    "str(object='') -> str\nstr(bytes_or_buffer[, encoding[, errors]]) -> str\n\n" ++
    "Create a new string object from the given object. If encoding or\nerrors is " ++
    "specified, then the object must expose a data buffer\nthat will be decoded " ++
    "using the given encoding and error handler.\nOtherwise, returns the result " ++
    "of object.__str__() (if defined)\nor repr(object).\nencoding defaults to " ++
    "sys.getdefaultencoding().\nerrors defaults to 'strict'."
  | bytes _ =>
    "bytes(iterable_of_ints) -> bytes\nbytes(string, encoding[, errors]) -> bytes\n" ++
    "bytes(bytes_or_buffer) -> immutable copy of bytes_or_buffer\nbytes(int) -> " ++
    "bytes object of size given by the parameter initialized with null bytes\n" ++
    "bytes() -> empty bytes object\n\nConstruct an immutable array of bytes " ++
    "from:\n  - an iterable yielding integers in range(256)\n  - a text string " ++
    "encoded using the specified encoding\n  - any object implementing the buffer " ++
    "API.\n  - an integer"
  | list _ =>
    "Built-in mutable sequence.\n\nIf no argument is given, the constructor " ++
    "creates a new empty list.\nThe argument must be an iterable if specified."
  | tuple _ =>
    "Built-in immutable sequence.\n\nIf no argument is given, the constructor " ++
    "returns an empty tuple.\nIf iterable is specified the tuple is initialized " ++
    "from iterable's items.\n\nIf the argument is a tuple, the return value is the " ++
    "same object."
  | mapping _ | view _ =>
    "dict() -> new empty dictionary\ndict(mapping) -> new dictionary initialized " ++
    "from a mapping object's\n    (key, value) pairs\ndict(iterable) -> new " ++
    "dictionary initialized as if via:\n    d = \x7b\x7d\n    for k, v in " ++
    "iterable:\n        d[k] = v\ndict(**kwargs) -> new dictionary initialized " ++
    "with the name=value pairs\n    in the keyword argument list.  For example:  " ++
    "dict(one=1, two=2)"
  | pattern _ _ _ =>
    "Compiled regular expression object."
  | _ => ""

/-- Values of these kinds cannot be hashed, and say so. -/
def lacksHash : Data → Bool
  | list _ | mapping _ | view _ | object _ => true
  | _ => false

/-- How a name belongs to a value by the kind of the value. -/
def memberKind? (v : Data) (name : String) : Option MemberKind :=
  if (words commonFunctions).contains name || (words v.functionNames).contains name then
    some .function
  else if (words commonOperators).contains name || (words v.operatorNames).contains name then
    some .operator
  else if (words v.searchNames).contains name then some .method
  else none

/-- The functions that belong to the kind and not to the value. -/
def kindFunctions : String :=
  "__class_getitem__ __getformat__ __init_subclass__ __new__ __subclasshook__ from_bytes " ++
    "fromhex fromkeys"

/-- Functions that say nothing about themselves. -/
def isUndocumented (owner : Data) (name : String) : MemberKind → Bool
  | .method => true
  | _ =>
    name == "__getnewargs__" || name == "__copy__" || name == "__deepcopy__"
      || (name == "__format__" && owner.whole?.isSome)

def member? (v : Data) (name : String) : Option Data :=
  match v, name with
  | v, "__class__" => some (member v name .type)
  | null, "__doc__" | member null _ .type, "__doc__" => some null
  | member o _ .type, "__doc__" => some (text o.description)
  | member o _ .type, "__name__" | member o _ .type, "__qualname__" => some (text o.shortKind)
  | member o n k, "__doc__" => some (if isUndocumented o n k then null else text n)
  | member _ n _, "__name__" => some (text n)
  | member _ "maketrans" _, "__self__" => some null
  | member o n .function, "__self__" =>
    some (if (words kindFunctions).contains n then member o "__class__" .type else o)
  | member o _ .operator, "__self__" | member o _ .method, "__self__" => some o
  | v, "__doc__" => some (text v.description)
  | v, "__hash__" => if v.lacksHash then some null else (v.memberKind? name).map (member v name)
  | pattern _ _ _, "__module__" => some (text "re")
  | v, name => if name.isEmpty then none else (v.memberKind? name).map (member v name)

end Assay.Data
