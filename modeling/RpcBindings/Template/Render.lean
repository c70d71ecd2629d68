import RpcBindings.Breakdown
import RpcBindings.Template.Members
import RpcBindings.Template.Tree

/-! A template filled in. Names and attributes that are not defined are errors, not empty texts. -/
namespace RpcBindings.Template

inductive RenderError where
  | undefined (name : String)
  | noAttribute (owner name : String)
  /-- The item before the first one of a loop, or behind its last one. -/
  | noNeighbour (side : String)
  /-- Another error that an engine reports. -/
  | reported (message : String)
  | broken (cause : Breakdown)
  deriving DecidableEq, Repr

def RenderError.message : RenderError → String
  | undefined name => Text.quote name ++ " is undefined"
  | noAttribute owner name => Text.quote owner ++ " has no attribute " ++ Text.quote name
  | noNeighbour side => s!"there is no {side} item"
  | reported message => message
  | broken cause => cause.message

/-- The names that a template can use, inner ones first. -/
abbrev Scope := List (String × Value)

def builtinScope : Scope := [
  ("range", .type "range"), ("dict", .type "dict"), ("lipsum", .builtin "lipsum" "function"),
  ("cycler", .type "jinja2.utils.Cycler"), ("joiner", .type "jinja2.utils.Joiner"),
  ("namespace", .type "jinja2.utils.Namespace")]

def ownerName : Value → String
  | .null => "None"
  | v => v.typeName ++ " object"

/-- A member of an object as the object gives it away: a function belongs to it from then on. -/
def ownedBy (owner : Value) : Value → Value
  | .method name action _ => .method name action owner
  | v => v

def held? (v : Value) (name : String) : Option Value :=
  match v with
  | .record _ fields derived => (fields.lookup name <|> derived.lookup name).map (ownedBy v)
  | _ => none

def entry? (v : Value) (name : String) : Option Value :=
  match v with
  | .dict entries => entries.lookup (.string name)
  | _ => none

def loopType : String := "jinja2.runtime.LoopContext"

def missing (v : Value) (name : String) : RenderError :=
  if v.typeName = loopType ∧ name = "previtem" then .noNeighbour "previous"
  else if v.typeName = loopType ∧ name = "nextitem" then .noNeighbour "next"
  else .noAttribute (ownerName v) name

/-- An attribute of a value: a member, else an entry. -/
def attributeOf (v : Value) (name : String) : Except RenderError Value :=
  match held? v name <|> member? v name <|> entry? v name with
  | some value => .ok value
  | none => .error (missing v name)

/-- The name of a value's type without the modules it lies in. -/
def shortType (v : Value) : String := Value.shortName v.typeName

/-- An object with some fields emptied and one holding a single value. -/
def select (owner : Value) (emptied : List String) (kept : String) (argument : Value) : Value :=
  match owner with
  | .record type fields derived =>
    let change (field : String × Value) : String × Value :=
      if field.1 = kept then (field.1, .tuple [argument])
      else if field.1 ∈ emptied then (field.1, .tuple [])
      else field
    .record type (fields.map change) derived
  | v => v

def applyTo (function argument : Value) : Except RenderError Value :=
  match function with
  | .method _ (.routing stem) _ =>
    match held? argument "name" with
    | some name => .ok (.text (.string stem ++ name.asText))
    | none => .error (.broken (.noMember (shortType argument) "name"))
  | .method _ (.selecting emptied kept) owner => .ok (select owner emptied kept argument)
  | v => .error (.broken (.notCallable (shortType v)))

def Expr.eval (scope : Scope) : Expr → Except RenderError Value
  | literal v => .ok v
  | var name =>
    match scope.lookup name <|> builtinScope.lookup name with
    | some v => .ok v
    | none => .error (.undefined name)
  | member object name => do attributeOf (← object.eval scope) name
  | call function argument => do applyTo (← function.eval scope) (← argument.eval scope)
  | not e => do return .bool !(← e.eval scope).truthy
  | and left right => do
    let v ← left.eval scope
    if v.truthy then right.eval scope else return v
  | or left right => do
    let v ← left.eval scope
    if v.truthy then return v else right.eval scope
  | equal left right => do return .bool ((← left.eval scope).same (← right.eval scope))

def items : Value → Except RenderError (List Value)
  | .list items | .tuple items => .ok items
  | .text s => .ok (s.singles.map .text)
  | .dict entries => .ok (entries.map fun entry => .text entry.1)
  | v => .error (.broken (.notIterable (shortType v)))

/-- What a loop knows about its round, counted from zero: its place and the items next to it. -/
def loopRecord (all : List Value) (index : Nat) : Value :=
  let neighbour (name : String) (item : Option Value) := (item.map fun v => (name, v)).toList
  let left := all.length - index
  .record loopType [] ([
    ("first", .bool (index == 0)), ("last", .bool (left == 1)),
    ("index", .int (index + 1)), ("index0", .int index), ("length", .int all.length),
    ("revindex", .int left), ("revindex0", .int (left - 1)),
    ("depth", .int 1), ("depth0", .int 0)] ++
    neighbour "previtem" (if index = 0 then none else all[index - 1]?) ++
    neighbour "nextitem" all[index + 1]?)

def loopScope (scope : Scope) (name : String) (all : List Value) (index : Nat) (item : Value) :
    Scope :=
  (name, item) :: ("loop", loopRecord all index) :: scope

/-- Texts of the rounds of a loop, one after the other. -/
def rounds (body : Nat → Value → Except RenderError Text.CodePoints) (index : Nat) :
    List Value → Except RenderError Text.CodePoints
  | [] => .ok (.string "")
  | item :: rest => do
    let here ← body index item
    return here ++ (← rounds body (index + 1) rest)

def shown (v : Value) : Text.CodePoints :=
  match v with
  | .record type _ derived =>
    if type = loopType then
      let number (name : String) := ((derived.lookup name).getD .null).display
      let index := number "index"
      let length := number "length"
      s!"<LoopContext {index}/{length}>"
    else v.asText
  | _ => v.asText

mutual

def Node.render (scope : Scope) : Node → Except RenderError Text.CodePoints
  | .text s => .ok (String.ofList s)
  | .print e => do return shown (← e.eval scope)
  | .choice test yes no => do
    if (← test.eval scope).truthy then renderAll scope yes else renderAll scope no
  | .loop name source body empty => do
    let all ← items (← source.eval scope)
    if all.isEmpty then renderAll scope empty
    else rounds (fun index item => renderAll (loopScope scope name all index item) body) 0 all

def renderAll (scope : Scope) : List Node → Except RenderError Text.CodePoints
  | [] => .ok (.string "")
  | node :: rest => do return (← node.render scope) ++ (← renderAll scope rest)

end

end RpcBindings.Template
