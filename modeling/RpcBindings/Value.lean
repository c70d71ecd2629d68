import RpcBindings.Decimal.Shown
import RpcBindings.Text.CodePoints

/-! Values whose type is known only at run time: what a document of settings holds, and what a
template can name. A value has a text, which a template prints, and a literal form, which messages
and the elements of lists show. -/
namespace RpcBindings

/-- What a member of an object that is a function does with its argument. -/
inductive Action where
  /-- A text followed by the name of the argument. -/
  | routing (stem : String)
  /-- A copy of the object, some of its fields emptied and one holding the argument alone. -/
  | selecting (emptied : List String) (kept : String)
  deriving DecidableEq, Repr

inductive Value where
  | null
  | bool (b : Bool)
  | int (n : Int)
  | real (x : Float)
  | text (s : Text.CodePoints)
  | list (items : List Value)
  | tuple (items : List Value)
  | dict (entries : List (Text.CodePoints × Value))
  /-- An object: the name of its type, the fields that make it up, those that follow from them. -/
  | record (typeName : String) (fields : List (String × Value)) (derived : List (String × Value))
  /-- A member of an object that is a function, by its name. -/
  | method (name : String) (action : Action) (owner : Value)
  /-- A member that the values of a type have by themselves. -/
  | builtin (name ownerType : String)
  /-- A type by its full name. -/
  | type (name : String)

namespace Value

def string (s : String) : Value := .text s

/-- The name of a type without the modules it lies in. -/
def shortName (typeName : String) : String :=
  String.ofList ((typeName.toList.reverse.takeWhile (· != '.')).reverse)

def typeName : Value → String
  | null => "NoneType"
  | bool _ => "bool"
  | int _ => "int"
  | real _ => "float"
  | text _ => "str"
  | list _ => "list"
  | tuple _ => "tuple"
  | dict _ => "dict"
  | record name _ _ => name
  | method .. => "method"
  | builtin .. => "builtin_function_or_method"
  | type _ => "type"

mutual

def literal : Value → String
  | null => "None"
  | bool b => if b then "True" else "False"
  | int n => toString n
  | real x => Decimal.written x
  | text s => s.quote
  | list items => "[" ++ literals items ++ "]"
  | tuple [item] => "(" ++ literal item ++ ",)"
  | tuple items => "(" ++ literals items ++ ")"
  | dict entries => "\x7b" ++ literalEntries entries ++ "\x7d"
  | record typeName fields _ => shortName typeName ++ "(" ++ literalFields fields ++ ")"
  | method name _ owner =>
    s!"<bound method {shortName owner.typeName}.{name} of {literal owner}>"
  | builtin name ownerType => s!"<built-in method {name} of {ownerType} object>"
  | type name => "<class " ++ Text.quote name ++ ">"

def literals : List Value → String
  | [] => ""
  | [item] => literal item
  | item :: rest => literal item ++ ", " ++ literals rest

/-- The entries of a dictionary with commas between them. -/
def literalEntries : List (Text.CodePoints × Value) → String
  | [] => ""
  | [(key, item)] => key.quote ++ ": " ++ literal item
  | (key, item) :: rest => key.quote ++ ": " ++ literal item ++ ", " ++ literalEntries rest

/-- The fields of an object with commas between them. -/
def literalFields : List (String × Value) → String
  | [] => ""
  | [(name, item)] => name ++ "=" ++ literal item
  | (name, item) :: rest => name ++ "=" ++ literal item ++ ", " ++ literalFields rest

end

/-- The text of a value: a text stands for itself, all else for its literal form. -/
def asText : Value → Text.CodePoints
  | text s => s
  | v => v.literal

def display (v : Value) : String := v.asText.toString

/-- Whether a value counts as true: zero, the empty text and empty collections do not. -/
def truthy : Value → Bool
  | null => false
  | bool b => b
  | int n => n != 0
  | real x => x != 0
  | text s => s != .string ""
  | list items | tuple items => !items.isEmpty
  | dict entries => !entries.isEmpty
  | record .. | method .. | builtin .. | type _ => true

/-- The number that a value stands for when numbers are compared; truth values are one and zero. -/
def number? : Value → Option (Int ⊕ Float)
  | bool b => some (.inl (if b then 1 else 0))
  | int n => some (.inl n)
  | real x => some (.inr x)
  | _ => none

/-- Equality of numbers of either kind; an integer is never rounded for it. -/
def sameNumber : Int ⊕ Float → Int ⊕ Float → Bool
  | .inl m, .inl n => m == n
  | .inl m, .inr y => Decimal.wholeOf? y == some m
  | .inr x, .inl n => Decimal.wholeOf? x == some n
  | .inr x, .inr y => x == y

mutual

/-- Equality of values, across the kinds of numbers and whatever the order of a dictionary. -/
def same : Value → Value → Bool
  | null, null => true
  | text s, text t => s == t
  | list xs, list ys | tuple xs, tuple ys => sameItems xs ys
  | dict xs, dict ys => xs.length == ys.length && sameEntries xs ys
  | record s xs _, record t ys _ => s == t && sameFields xs ys
  | method m _ v, method n _ w => m == n && same v w
  | type s, type t => s == t
  | v, w =>
    match v.number?, w.number? with
    | some m, some n => sameNumber m n
    | _, _ => false

def sameItems : List Value → List Value → Bool
  | [], [] => true
  | x :: xs, y :: ys => same x y && sameItems xs ys
  | _, _ => false

/-- Whether every entry on the left has an equal one on the right. -/
def sameEntries : List (Text.CodePoints × Value) → List (Text.CodePoints × Value) → Bool
  | [], _ => true
  | (key, x) :: xs, ys =>
    (match ys.lookup key with
      | some y => same x y
      | none => false) && sameEntries xs ys

def sameFields : List (String × Value) → List (String × Value) → Bool
  | [], [] => true
  | (_, x) :: xs, (_, y) :: ys => same x y && sameFields xs ys
  | _, _ => false

end

end Value

end RpcBindings
