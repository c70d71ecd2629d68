import RpcBindings.Schema.Basic

/-! Linked files as one graph of objects. A declaration becomes an object when it is first reached,
through its own file or through what refers to it, and all that refers to it later refers to that
object. A message is registered before what it holds is looked at, so that messages that refer to
themselves or to each other come to an end. -/
namespace RpcBindings.Schema

/-! ### What linked files declare -/

mutual

/-- A message and all messages inside it, outer ones first. -/
def MessageDecl.all : MessageDecl → List MessageDecl
  | ⟨name, fullName, file, package, isMapEntry, fields, messages, enums⟩ =>
    ⟨name, fullName, file, package, isMapEntry, fields, messages, enums⟩ :: allMessages messages

def allMessages : List MessageDecl → List MessageDecl
  | [] => []
  | m :: rest => m.all ++ allMessages rest

end

/-- The messages of some files, at any depth. -/
def declaredMessages (files : List SchemaFile) : List MessageDecl :=
  files.flatMap fun f => allMessages f.messages

/-- The enums of some files, in messages or in none. -/
def declaredEnums (files : List SchemaFile) : List EnumDecl :=
  files.flatMap fun f => f.enums ++ (allMessages f.messages).flatMap (·.enums)

/-- The message that a reference stands for. -/
def target? (files : List SchemaFile) (r : MessageRef) : Option MessageDecl :=
  (declaredMessages files).find? (·.fullName == r.fullName)

/-! ### Objects -/

/-- The position of an object among those of its kind, in the order in which they are made. -/
abbrev Address := Nat

structure FieldNode where
  name : String
  number : Int
  kind : Option Kind
  cardinality : Cardinality
  enum : Option Address
  message : Option Address

/-- A message as an object; what it holds comes later. -/
structure MessageNode where
  name : String
  fullName : String
  file : String
  package : String
  isMapEntry : Bool
  fields : List FieldNode := []
  messages : List Address := []
  enums : List Address := []

/-- The object of a message of which nothing but the head is known. -/
def MessageDecl.blank (m : MessageDecl) : MessageNode where
  name := m.name
  fullName := m.fullName
  file := m.file
  package := m.package
  isMapEntry := m.isMapEntry

structure MethodNode where
  name : String
  input : Address
  output : Address
  serverStreaming : Bool

structure ServiceNode where
  name : String
  fullName : String
  methods : List MethodNode

structure FileNode where
  name : String
  package : String
  generate : Bool
  enums : List Address
  messages : List Address
  services : List ServiceNode

/-- The objects made so far, each registered under the full name of its declaration. -/
structure View where
  enums : List EnumDecl := []
  messages : List MessageNode := []

namespace View

def enumAt? (v : View) (fullName : String) : Option Address :=
  v.enums.findIdx? (·.fullName == fullName)

def messageAt? (v : View) (fullName : String) : Option Address :=
  v.messages.findIdx? (·.fullName == fullName)

def addEnum (v : View) (e : EnumDecl) : View := { v with enums := v.enums ++ [e] }

def addMessage (v : View) (node : MessageNode) : View :=
  { v with messages := v.messages ++ [node] }

/-- Changes the message object at an address. -/
def update (v : View) (address : Address) (change : MessageNode → MessageNode) : View :=
  { v with messages := v.messages.modify address change }

end View

/-- Steps that make objects. They fail if messages refer to each other in a longer row than can be
followed, or if a reference stands for nothing. -/
abbrev Viewing := StateT View Option

/-! ### Making objects -/

def viewEnum (e : EnumDecl) : Viewing Address := do
  let v ← get
  match v.enumAt? e.fullName with
  | some address => return address
  | none =>
    set (v.addEnum e)
    return v.enums.length

def viewReference (files : List SchemaFile) (view : MessageDecl → Viewing Address) (r : MessageRef) :
    Viewing Address := do
  view (← target? files r)

def viewField (files : List SchemaFile) (view : MessageDecl → Viewing Address) (f : FieldDecl) :
    Viewing FieldNode := do
  let enum ← f.enum.mapM viewEnum
  let message ← f.message.mapM (viewReference files view)
  return ⟨f.name, f.number, f.kind, f.cardinality, enum, message⟩

/-- The object of a message; it is made if there is none yet. The depth bounds how many messages are
looked into at once, each of them from the one before. -/
def viewMessage (files : List SchemaFile) : (depth : Nat) → MessageDecl → Viewing Address
  | 0, _ => failure
  | depth + 1, m => do
    let v ← get
    match v.messageAt? m.fullName with
    | some address => return address
    | none =>
      let address := v.messages.length
      set (v.addMessage m.blank)
      let fields ← m.fields.mapM (viewField files (viewMessage files depth))
      modify (·.update address ({ · with fields }))
      let messages ← m.messages.mapM (viewMessage files depth)
      modify (·.update address ({ · with messages }))
      let enums ← m.enums.mapM viewEnum
      modify (·.update address ({ · with enums }))
      return address

def viewMethod (files : List SchemaFile) (view : MessageDecl → Viewing Address) (m : MethodDecl) :
    Viewing MethodNode := do
  let input ← viewReference files view m.input
  let output ← viewReference files view m.output
  return ⟨m.name, input, output, m.serverStreaming⟩

def viewService (files : List SchemaFile) (view : MessageDecl → Viewing Address) (s : ServiceDecl) :
    Viewing ServiceNode := do
  let methods ← s.methods.mapM (viewMethod files view)
  return ⟨s.name, s.fullName, methods⟩

def viewFile (files : List SchemaFile) (view : MessageDecl → Viewing Address) (f : SchemaFile) :
    Viewing FileNode := do
  let enums ← f.enums.mapM viewEnum
  let messages ← f.messages.mapM view
  let services ← f.services.mapM (viewService files view)
  return ⟨f.name, f.package, f.generate, enums, messages, services⟩

/-- Linked files with all objects that they hold. -/
def viewFiles (depth : Nat) (files : List SchemaFile) : Option (List FileNode × View) :=
  (files.mapM (viewFile files (viewMessage files depth))).run {}

end RpcBindings.Schema
