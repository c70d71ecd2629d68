/-! A linked schema: files with their enums, messages and services, in the order of declaration.
Every reference to a declaration carries the name, file and package of what it refers to. -/
namespace RpcBindings.Schema

inductive Kind where
  | double | float | int64 | uint64 | int32 | fixed64 | fixed32 | bool | string
  | group | message | bytes | uint32 | enum | sfixed32 | sfixed64 | sint32 | sint64
  deriving DecidableEq, Repr

namespace Kind

/-- All kinds in the order of their numbers, which start at one. -/
def all : List Kind := [
  double, float, int64, uint64, int32, fixed64, fixed32, bool, string,
  group, message, bytes, uint32, enum, sfixed32, sfixed64, sint32, sint64]

def ofNumber? : Nat → Option Kind
  | 0 => none
  | n + 1 => all[n]?

def number (k : Kind) : Nat := all.idxOf k + 1

/-- The name of a kind in lowercase. -/
def name : Kind → String
  | double => "double" | float => "float" | int64 => "int64" | uint64 => "uint64"
  | int32 => "int32" | fixed64 => "fixed64" | fixed32 => "fixed32" | bool => "bool"
  | string => "string" | group => "group" | message => "message" | bytes => "bytes"
  | uint32 => "uint32" | enum => "enum" | sfixed32 => "sfixed32" | sfixed64 => "sfixed64"
  | sint32 => "sint32" | sint64 => "sint64"

theorem ofNumber?_number (k : Kind) : ofNumber? k.number = some k := by cases k <;> rfl

end Kind

inductive Cardinality where
  | optional | required | repeated
  deriving DecidableEq, Repr

def Cardinality.ofNumber? : Nat → Option Cardinality
  | 1 => some optional
  | 2 => some required
  | 3 => some repeated
  | _ => none

structure EnumValue where
  name : String
  number : Int
  deriving DecidableEq, Repr

structure EnumDecl where
  name : String
  fullName : String
  file : String
  package : String
  values : List EnumValue
  deriving DecidableEq, Repr

/-- A reference to a message: its name and where it is declared. -/
structure MessageRef where
  name : String
  fullName : String
  file : String
  package : String
  deriving DecidableEq, Repr

/-- A field of a message, with the declaration that its type names. -/
structure FieldDecl where
  name : String
  number : Int
  kind : Option Kind
  cardinality : Cardinality
  enum : Option EnumDecl
  message : Option MessageRef
  deriving DecidableEq, Repr

def FieldDecl.isList (f : FieldDecl) : Bool := f.cardinality = .repeated

structure MessageDecl where
  name : String
  fullName : String
  file : String
  package : String
  isMapEntry : Bool
  fields : List FieldDecl
  messages : List MessageDecl
  enums : List EnumDecl

def MessageDecl.ref (m : MessageDecl) : MessageRef := ⟨m.name, m.fullName, m.file, m.package⟩

/-- A method with the messages that go in and come out. -/
structure MethodDecl where
  name : String
  input : MessageRef
  output : MessageRef
  serverStreaming : Bool
  deriving DecidableEq, Repr

structure ServiceDecl where
  name : String
  fullName : String
  methods : List MethodDecl
  deriving DecidableEq, Repr

/-- A schema file; `generate` marks the files that output is wanted for. -/
structure SchemaFile where
  name : String
  package : String
  generate : Bool
  enums : List EnumDecl
  messages : List MessageDecl
  services : List ServiceDecl

end RpcBindings.Schema
