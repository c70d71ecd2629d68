import RpcBindings.Schema.Basic
import RpcBindings.Schema.LinkError
import RpcBindings.Text.Split

/-! Names in a schema: which texts are names, how the names of enclosing declarations qualify them,
and how a name written inside a declaration finds what it denotes. -/
namespace RpcBindings.Schema

def isNameStart (c : Char) : Bool := c.isAlpha || c == '_'

/-- A character that may follow the first one of a name part. -/
def isNamePart (c : Char) : Bool := c.isAlphanum || c == '_'

/-- A name as messages show it: what follows a NUL is lost. -/
def beforeNul (name : String) : String := String.ofList (name.toList.takeWhile (· != '\x00'))

/-- Reads a name from left to right; `atStart` tells whether a part starts here. -/
def checkParts (name : String) (dotted : Bool) : (atStart : Bool) → List Char →
    Except LinkError Unit
  | atStart, [] => if atStart && !dotted then .error (.emptyPart name) else .ok ()
  | atStart, c :: rest =>
    if c = '.' then
      if atStart || !dotted then .error (.unexpectedDot name) else checkParts name dotted true rest
    else if atStart then
      if isNameStart c then checkParts name dotted false rest else .error (.partStart name)
    else if isNamePart c then checkParts name dotted false rest
    else .error (.nonAlphanumeric name)

def checkName (name : String) : Except LinkError Unit :=
  checkParts (beforeNul name) false true name.toList

/-- Whether a text is a package: nothing, or names with dots between them and one more at most. -/
def checkPackage (name : String) : Except LinkError Unit :=
  checkParts (beforeNul name) true true name.toList

def qualify (scope name : String) : String := if scope = "" then name else scope ++ "." ++ name

/-- A scope and the ones around it, from the innermost to the root. -/
def enclosingScopes (scope : String) : List String :=
  let grow (scopes : List String) (part : List Char) : List String :=
    match scopes with
    | [] => [String.ofList part]
    | inner :: outer => (inner ++ "." ++ String.ofList part) :: inner :: outer
  (Text.split '.' scope.toList).foldl grow [] ++ [""]

/-- A message that a name denotes: the reference to it, whether it stands for the entries of a map,
and the numbers that its extensions may have. -/
structure MessageSymbol where
  ref : MessageRef
  isMapEntry : Bool
  extensionRanges : List (Int × Int)
  deriving DecidableEq, Repr

inductive Symbol where
  | message (m : MessageSymbol)
  | enum (e : EnumDecl)
  /-- An enum constant, a service or an extension: no type of a field. -/
  | other
  deriving DecidableEq, Repr

abbrev SymbolTable := List (String × Symbol)

def SymbolTable.declare (table : SymbolTable) (scope name : String) (symbol : Symbol) :
    Except LinkError SymbolTable := do
  checkName name
  let fullName := qualify scope name
  if (table.lookup fullName).isSome then throw (.duplicateSymbol fullName)
  return (fullName, symbol) :: table

/-- The full name of what a name written inside `scope` denotes: with a dot before it, it is a full
name; else the innermost scope that declares it decides. -/
def resolve? (table : SymbolTable) (scope name : String) : Option (String × Symbol) :=
  let declared (fullName : String) := (table.lookup fullName).map fun symbol => (fullName, symbol)
  match name.toList with
  | '.' :: rest => declared (String.ofList rest)
  | _ => (enclosingScopes scope).findSome? fun outer => declared (qualify outer name)

def resolve (table : SymbolTable) (scope name : String) : Except LinkError (String × Symbol) :=
  match resolve? table scope name with
  | some found => .ok found
  | none => .error (.unresolved (beforeNul name))

/-- The message that a name written inside `scope` denotes, for the declaration of a full name. -/
def resolveMessage (table : SymbolTable) (scope user name : String) :
    Except LinkError MessageSymbol := do
  match ← resolve table scope name with
  | (_, .message m) => return m
  | _ => throw (.wrongKind user (beforeNul name) 1)

end RpcBindings.Schema
