import RpcBindings.Text.Split
import RpcBindings.Value

/-! Members that a value has by its type, whatever it holds: they go before the entries of a
dictionary that are named like them. Most are functions, of which a template can only tell that they
are there. -/
namespace RpcBindings.Template

def names (row : String) : List String := (Text.split ' ' row.toList).map String.ofList

def commonMembers : List String := names <|
  "__class__ __delattr__ __dir__ __doc__ __eq__ __format__ __ge__ __getattribute__ " ++
  "__getstate__ __gt__ __hash__ __init__ __init_subclass__ __le__ __lt__ __ne__ __new__ " ++
  "__reduce__ __reduce_ex__ __repr__ __setattr__ __sizeof__ __str__ __subclasshook__"

def textMembers : List String := names <|
  "__add__ __contains__ __getitem__ __getnewargs__ __iter__ __len__ __mod__ __mul__ __rmod__ " ++
  "__rmul__ capitalize casefold center count encode endswith expandtabs find format format_map " ++
  "index isalnum isalpha isascii isdecimal isdigit isidentifier islower isnumeric isprintable " ++
  "isspace istitle isupper join ljust lower lstrip maketrans partition removeprefix " ++
  "removesuffix replace rfind rindex rjust rpartition rsplit rstrip split splitlines " ++
  "startswith strip swapcase title translate upper zfill"

def listMembers : List String := names <|
  "__add__ __class_getitem__ __contains__ __delitem__ __getitem__ __iadd__ __imul__ __iter__ " ++
  "__len__ __mul__ __reversed__ __rmul__ __setitem__ append clear copy count extend index " ++
  "insert pop remove reverse sort"

def tupleMembers : List String := names <|
  "__add__ __class_getitem__ __contains__ __getitem__ __getnewargs__ __iter__ __len__ __mul__ " ++
  "__rmul__ count index"

def dictMembers : List String := names <|
  "__class_getitem__ __contains__ __delitem__ __getitem__ __ior__ __iter__ __len__ __or__ " ++
  "__reversed__ __ror__ __setitem__ clear copy fromkeys get items keys pop popitem setdefault " ++
  "update values"

def numberMembers : List String := names <|
  "__abs__ __add__ __bool__ __ceil__ __divmod__ __float__ __floor__ __floordiv__ " ++
  "__getnewargs__ __int__ __mod__ __mul__ __neg__ __pos__ __pow__ __radd__ __rdivmod__ " ++
  "__rfloordiv__ __rmod__ __rmul__ __round__ __rpow__ __rsub__ __rtruediv__ __sub__ " ++
  "__truediv__ __trunc__ as_integer_ratio conjugate"

/-- The members of whole numbers only. -/
def intMembers : List String := names <|
  "__and__ __index__ __invert__ __lshift__ __or__ __rand__ __rlshift__ __ror__ __rrshift__ " ++
  "__rshift__ __rxor__ __xor__ bit_count bit_length from_bytes to_bytes"

/-- The members of decimal numbers only. -/
def realMembers : List String := names "__getformat__ fromhex hex is_integer"

def recordMembers : List String := names "__annotations__ __dataclass_fields__ __dataclass_params__"

def functionMembers : List String := names "__call__ __func__ __self__ __text_signature__"

/-- The members of types, besides those of the values of the type. -/
def typeMembers : List String := names <|
  "__base__ __bases__ __basicsize__ __call__ __dict__ __flags__ __instancecheck__ __mro__ " ++
  "__or__ __prepare__ __ror__ __subclasscheck__ __subclasses__ mro"

/-- The members, besides the common ones, of the values of a type. -/
def membersOf : (typeName : String) → List String
  | "str" => textMembers
  | "list" => listMembers
  | "tuple" => tupleMembers
  | "dict" => dictMembers
  | "int" | "bool" => numberMembers ++ intMembers
  | "float" => numberMembers ++ realMembers
  | "NoneType" => ["__bool__"]
  | "method" | "builtin_function_or_method" => functionMembers
  | "jinja2.runtime.LoopContext" => names "__call__ __iter__ __len__ __next__ changed cycle"
  | _ => []

/-- The modules that a type lies in, or the word for none. -/
def moduleOf (typeName : String) : String :=
  match (typeName.toList.reverse.dropWhile (· != '.')).drop 1 with
  | [] => "builtins"
  | reversed => String.ofList reversed.reverse

/-- The members of a number that are numbers: its parts as a complex number and as a fraction. -/
def numberMember? (v : Value) (name : String) : Option Value :=
  match v, name with
  | .int n, "real" | .int n, "numerator" => some (.int n)
  | .int _, "imag" => some (.int 0)
  | .int _, "denominator" => some (.int 1)
  | .bool b, "real" | .bool b, "numerator" => some (.int (if b then 1 else 0))
  | .bool _, "imag" => some (.int 0)
  | .bool _, "denominator" => some (.int 1)
  | .real x, "real" => some (.real x)
  | .real _, "imag" => some (.real 0)
  | _, _ => none

/-- The members of objects, functions and types that hold something. -/
def describedMember? (v : Value) (name : String) : Option Value :=
  match v, name with
  | .record _ fields _, "__dict__" =>
    some (.dict (fields.map fun entry => (.string entry.1, entry.2)))
  | .record _ fields _, "__match_args__" =>
    some (.tuple (fields.map fun entry => .text entry.1))
  | .record type _ _, "__module__" => some (.text (moduleOf type))
  | .record .., "__weakref__" => some .null
  | .method name _ _, "__name__" => some (.text name)
  | .method name _ owner, "__qualname__" =>
    some (.text (Value.shortName owner.typeName ++ "." ++ name))
  | .method _ _ owner, "__self__" => some owner
  | .method _ _ owner, "__module__" => some (.text (moduleOf owner.typeName))
  | .builtin name _, "__name__" => some (.text name)
  | .builtin name ownerType, "__qualname__" => some (.text (ownerType ++ "." ++ name))
  | .builtin .., "__module__" => some .null
  | .type type, "__name__" | .type type, "__qualname__" => some (.text (Value.shortName type))
  | .type type, "__module__" => some (.text (moduleOf type))
  | .list _, "__hash__" | .dict _, "__hash__" => some .null
  | _, _ => none

/-- The names of the members of a value that only count as there. -/
def plainMembers : Value → List String
  | .type type => typeMembers ++ membersOf type
  | .record type _ _ => recordMembers ++ membersOf type
  | v => membersOf v.typeName

def member? (v : Value) (name : String) : Option Value :=
  if name = "__class__" then some (.type v.typeName)
  else numberMember? v name <|> describedMember? v name <|>
    if (commonMembers ++ plainMembers v).contains name then some (.builtin name v.typeName)
    else none

end RpcBindings.Template
