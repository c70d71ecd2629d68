import RpcBindings.TypeTable

/-! Target languages as values. All that is decided per language is a field here, and nothing else
looks at the name of a language. -/
namespace RpcBindings

/-- What a generated file must know about other generated files. -/
inductive ImportStyle where
  | nothing
  /-- The full names of the types of other packages. -/
  | qualifiedNames
  /-- Relative paths of other files: of the support file and of files with message classes, which
  carry `messagesSuffix`. -/
  | relativePaths (messagesSuffix : String)
  deriving DecidableEq, Repr

/-- A file that generated code runs on and that is put next to it: its name and its text. -/
structure SupportFile where
  name : String
  text : String
  deriving DecidableEq, Repr

structure Target where
  name : String
  /-- What the names of generated files end in. -/
  fileSuffix : String
  templateName : String
  template : String
  types : TypeTable
  /-- Stands in for an empty package. -/
  fallbackPackage : Option String := none
  /-- Whether enums and messages are generated, not only services. -/
  emitsTypes : Bool := false
  /-- Whether the names of types carry their package. -/
  flatNamespace : Bool := false
  support : Option SupportFile := none
  imports : ImportStyle := .nothing
  /-- The names that a description gives to the generator of this language and to its module. -/
  className : String
  moduleName : String
  deriving DecidableEq, Repr

end RpcBindings
