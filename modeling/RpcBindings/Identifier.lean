import RpcBindings.Text.Case
import RpcBindings.Text.CodePoints
import RpcBindings.Text.Split

/-! How declared names become names in generated code. Only the underscore and the case of letters
mark the borders of words; a run of letters without either is never cut. -/
namespace RpcBindings.Identifier

open Text

/-- Gives the first character another form, unless that form is not a single character. -/
def recaseFirst (form : Char → List Char) : List Char → List Char
  | [] => []
  | c :: rest => (match form c with | [d] => d | _ => c) :: rest

/-- The name with its first character in lowercase. -/
def lowerFirst (name : List Char) : List Char := recaseFirst lowerOf name

/-- The name with its first character in uppercase. -/
def upperFirst (name : List Char) : List Char := recaseFirst upperOf name

/-- The words between underscores put together, every word but the first starting in uppercase. -/
def lowerCamel (name : List Char) : List Char :=
  match split '_' name with
  | [] => []
  | first :: later => first ++ later.flatMap upperFirst

/-- One character of a snake-case name: an uppercase one opens a word. -/
def snakeChar (c : Char) : List Char :=
  if isUpper c then '_' :: lowerFirst [c] else lowerFirst [c]

/-- The name in lowercase, an underscore before every uppercase character but the first one. -/
def snakeCase : List Char → List Char
  | [] => []
  | c :: rest => lowerFirst [c] ++ rest.flatMap snakeChar

/-- What stands before the name of a type of a package where all types share one namespace: the
segments of the package, each starting in uppercase and followed by an underscore. -/
def typePrefix (package : List Char) : List Char :=
  match package with
  | [] => []
  | _ :: _ => join ['_'] ((split '.' package).map upperFirst) ++ ['_']

/-- A code point in uppercase, unless that form is not a single one. -/
def upperCode (code : Nat) : Nat :=
  if code.isValidChar then ((upperFirst [Char.ofNat code]).map Char.toNat).headD code else code

/-- The code points of segments, each starting in uppercase and followed by an underscore; `fresh`
tells whether a segment begins. -/
def prefixCodes (fresh : Bool) : List Nat → List Nat
  | [] => ['_'.toNat]
  | code :: rest =>
    if code = '.'.toNat then '_'.toNat :: prefixCodes true rest
    else (if fresh then upperCode code else code) :: prefixCodes false rest

/-- The prefix of a package whose name may hold surrogates, which have no other case. -/
def typePrefixOf : CodePoints → CodePoints
  | .string package => .string (onString typePrefix package)
  | .broken codes => .ofCodes (prefixCodes true codes)

@[simp] theorem length_recaseFirst (form : Char → List Char) (name : List Char) :
    (recaseFirst form name).length = name.length := by
  cases name <;> simp [recaseFirst]

end RpcBindings.Identifier
