import RpcBindings.Path
import RpcBindings.Value

/-! What is generated from one schema file, in the terms of the target language: enums and messages,
services, and the types of other files that they name. -/
namespace RpcBindings.Stub

structure EnumValue where
  name : String
  number : Int
  deriving DecidableEq, Repr

structure Enum where
  name : String
  values : List EnumValue
  deriving DecidableEq, Repr

structure Field where
  name : String
  type : String
  number : Int
  defaultValue : String
  deriving DecidableEq, Repr

structure Message where
  name : String
  fields : List Field
  deriving DecidableEq, Repr

/-- A method; `memberName` is its name in generated code, `input` and `output` are the names of its
messages there. -/
structure Method where
  name : String
  memberName : String
  input : Text.CodePoints
  output : Text.CodePoints
  serverStreaming : Bool
  deriving DecidableEq, Repr

structure Service where
  name : String
  methods : List Method
  deriving DecidableEq, Repr

def Service.routeStem (s : Service) : String := s.name ++ "/"

/-- The name under which a method is called over the wire. -/
def Service.route (s : Service) (m : Method) : String := s.routeStem ++ m.name

/-- What names a package: a text, or a value that is no text and stands in for the empty name. -/
inductive Package where
  | text (s : Text.CodePoints)
  | standIn
  deriving DecidableEq, Repr

def Package.value (standIn : Value) : Package → Value
  | text s => .text s
  | .standIn => standIn

/-- A type that another schema file declares: its name, its package, that file without extension. -/
structure TypeRef where
  name : String
  package : Package
  file : String
  deriving DecidableEq, Repr

structure File where
  schemaName : String
  /-- The name of the schema file without its extension. -/
  baseName : String
  package : Package
  /-- What stands in for empty packages. -/
  standIn : Value
  enums : List Enum
  messages : List Message
  services : List Service
  externalTypes : List TypeRef

namespace File

/-- The base name without directories. -/
def stem (f : File) : String := (Path.ofString f.baseName).name

/-- How many directories lie between the output root and the file; no file is one level up. -/
def depth (f : File) : Int := ((Path.ofString f.baseName).depth : Int) - 1

/-- The part of a file that a single service is generated from. -/
def forService (f : File) (s : Service) : File :=
  { f with enums := [], messages := [], services := [s] }

end File

end RpcBindings.Stub
