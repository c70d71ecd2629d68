import RpcBindings.Breakdown
import RpcBindings.Identifier
import RpcBindings.Stub.Basic
import RpcBindings.TypeTable

/-! From a linked schema file to what is generated from it. -/
namespace RpcBindings.Stub

open Schema Text

structure BuildOptions where
  types : TypeTable
  /-- Stands in for an empty package, unless it counts as false. -/
  fallbackPackage : Value
  /-- Whether enums and messages are generated too. -/
  emitsTypes : Bool
  /-- Whether all types share one namespace, so that their names carry the package. -/
  flatNamespace : Bool

def extension : List Char := ['.', 'p', 'r', 'o', 't', 'o']

/-- A file name without one extension at its end. -/
def stripExtension (name : String) : String :=
  if extension.isSuffixOf name.toList then
    String.ofList (name.toList.take (name.toList.length - extension.length))
  else name

def resolvePackage (package : String) (fallback : Value) : Package :=
  if package = "" ∧ fallback.truthy then
    match fallback with
    | .text name => .text name
    | _ => .standIn
  else .text package

def buildEnum (e : EnumDecl) : Enum := ⟨e.name, e.values.map fun v => ⟨v.name, v.number⟩⟩

def buildField (types : TypeTable) (f : FieldDecl) : Field where
  name := onString Identifier.lowerCamel f.name
  type := types.fieldType f
  number := f.number
  defaultValue := types.defaultValue f

def buildMessage (types : TypeTable) (m : MessageDecl) : Message :=
  ⟨m.name, m.fields.map (buildField types)⟩

/-- A method; the prefix goes before the names of its messages and nowhere else. -/
def buildMethod (typePrefix : CodePoints) (m : MethodDecl) : Method where
  name := m.name
  memberName := onString Identifier.lowerFirst m.name
  input := typePrefix ++ .string m.input.name
  output := typePrefix ++ .string m.output.name
  serverStreaming := m.serverStreaming

def buildService (typePrefix : CodePoints) (s : ServiceDecl) : Service :=
  ⟨s.name, s.methods.map (buildMethod typePrefix)⟩

/-- A declaration that is referred to: its name, and the file and package that declare it. -/
structure Reference where
  name : String
  file : String
  package : String
  deriving DecidableEq, Repr

def Reference.ofMessage (m : MessageRef) : Reference := ⟨m.name, m.file, m.package⟩

def Reference.ofEnum (e : EnumDecl) : Reference := ⟨e.name, e.file, e.package⟩

/-- What the methods of a file refer to, inputs before outputs. -/
def methodReferences (f : SchemaFile) : List Reference :=
  f.services.flatMap fun s => s.methods.flatMap fun m =>
    [Reference.ofMessage m.input, Reference.ofMessage m.output]

/-- What the fields of the top-level messages of a file refer to. -/
def fieldReferences (f : SchemaFile) : List Reference :=
  f.messages.flatMap fun m => m.fields.flatMap fun field =>
    (field.enum.map Reference.ofEnum).toList ++ (field.message.map Reference.ofMessage).toList

/-- All that the generated file refers to, in order. -/
def references (f : SchemaFile) (emitsTypes : Bool) : List Reference :=
  methodReferences f ++ if emitsTypes then fieldReferences f else []

/-- The elements of a list without those that came before. -/
def firstOccurrences {α : Type} [DecidableEq α] (seen : List α) : List α → List α
  | [] => []
  | x :: rest =>
    if x ∈ seen then firstOccurrences seen rest else x :: firstOccurrences (x :: seen) rest

def typeRef (options : BuildOptions) (r : Reference) : TypeRef :=
  ⟨r.name, resolvePackage r.package options.fallbackPackage, stripExtension r.file⟩

/-- What the generated file refers to in other files, in order. -/
def foreignTypes (f : SchemaFile) (options : BuildOptions) : List TypeRef :=
  ((references f options.emitsTypes).filter (·.file ≠ f.name)).map (typeRef options)

def isHashable : Value → Bool
  | .list _ | .dict _ => false
  | _ => true

/-- The types of other files that the generated file names, each once, by first reference. They are
looked up among those before them, and so is the value that names a package. -/
def externalTypes (f : SchemaFile) (options : BuildOptions) : Except Breakdown (List TypeRef) :=
  let types := foreignTypes f options
  if types.any (·.package = .standIn) && !isHashable options.fallbackPackage then
    .error (.notHashable options.fallbackPackage.typeName)
  else .ok (firstOccurrences [] types)

/-- The prefix of type names in a file. It is made from a text. -/
def flatPrefix (package : Package) (options : BuildOptions) : Except Breakdown CodePoints :=
  if options.flatNamespace then
    match package with
    | .text name => .ok (Identifier.typePrefixOf name)
    | .standIn => .error (.noMember options.fallbackPackage.typeName "split")
  else .ok (.string "")

/-- What is generated from a schema file. The prefix of type names comes from the package of the
file that names them, wherever they are declared. -/
def ofSchema (f : SchemaFile) (options : BuildOptions) : Except Breakdown File := do
  let package := resolvePackage f.package options.fallbackPackage
  let typePrefix ← flatPrefix package options
  let externalTypes ← externalTypes f options
  return {
    schemaName := f.name
    baseName := stripExtension f.name
    package := package
    standIn := options.fallbackPackage
    enums := if options.emitsTypes then f.enums.map buildEnum else []
    messages := if options.emitsTypes then f.messages.map (buildMessage options.types) else []
    services := f.services.map (buildService typePrefix)
    externalTypes := externalTypes }

end RpcBindings.Stub
