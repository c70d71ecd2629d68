import RpcBindings.Layout
import RpcBindings.Options
import RpcBindings.Stub.OfSchema
import RpcBindings.Stub.View
import RpcBindings.Support
import RpcBindings.Template.Library

/-! A target language with the options of a run: from a schema file to the files generated from it,
and from all files of a schema to the output of the run. -/
namespace RpcBindings

open Schema Template

/-- The name that generated files give to what generated them. -/
def generatorName : String := "protoc-gen-klm"

/-- A language with options; the template is the language's own unless it is replaced or missing. -/
structure Generator where
  target : Target
  options : Options
  template : Option String := some target.template

/-- A file that the template fails on, or fails on the part for one service of. -/
structure FileError where
  file : String
  service : Option String
  cause : TemplateError
  deriving DecidableEq, Repr

def FileError.message (e : FileError) : String :=
  let part := match e.service with
    | some "" | none => ""
    | some service => s!" ({service})"
  s!"Failed to render {e.file}{part}: {e.cause.message}"

inductive FileFault where
  | render (error : FileError)
  | broken (cause : Breakdown)
  deriving DecidableEq, Repr

/-- The breakdown behind a fault, if it is one. -/
def FileFault.breakdown? : FileFault → Option Breakdown
  | render _ => none
  | broken cause => some cause

def FileFault.message : FileFault → String
  | render error => error.message
  | broken cause => cause.message

inductive RunError where
  | template (cause : TemplateError)
  | file (cause : FileFault)
  | support (cause : SupportError)
  /-- The output is complete, but cannot be listed. -/
  | listing (cause : Breakdown)
  deriving DecidableEq, Repr

/-- The breakdown behind an error, if it is one. -/
def RunError.breakdown? : RunError → Option Breakdown
  | template cause => cause.breakdown?
  | file fault => fault.breakdown?
  | support cause => cause.breakdown?
  | listing cause => some cause

def RunError.message : RunError → String
  | template cause => cause.message
  | file cause => cause.message
  | support cause => cause.message
  | listing cause => cause.message

structure RunSummary where
  language : String
  fileSuffix : String
  schemaFiles : Nat
  skippedFiles : Nat
  granularity : Granularity
  support : Value

structure RunResult where
  files : List OutputFile
  summary : RunSummary

/-- What outlives a run: the template of the generator, once it has been read, and the support
files read so far. -/
structure Session (T : Type) where
  template : Option (LoadedBy T) := none
  store : SupportStore

/-- How far a run has come: its output, and how many schema files it generated and skipped. -/
structure Progress where
  outputs : List OutputFile := []
  generated : Nat := 0
  skipped : Nat := 0

/-- What there is to know about a language and its options. -/
structure Description where
  name : String
  fileSuffix : String
  templateName : String
  fallbackPackage : Value
  emitsTypes : Bool
  flatNamespace : Bool
  support : Value
  granularity : Granularity
  scalarTypes : List (String × String)

namespace Generator

/-! ### Choices of the options, else of the language -/

def fallbackPackage (g : Generator) : Value :=
  match g.options.fallbackPackage with
  | .null => (g.target.fallbackPackage.map Value.string).getD .null
  | v => v

def granularity (g : Generator) : Granularity := g.options.granularity.getD .perFile

/-- Whether the run puts a support file into its output. -/
def needsSupport (g : Generator) : Bool := g.target.support.isSome && g.options.bundleRuntime

/-- The name of the support file in the output, if the language has one. -/
def supportName (g : Generator) : Value :=
  match g.target.support with
  | none => .null
  | some file =>
    if g.options.runtimeOutput.truthy then g.options.runtimeOutput else .text file.name

def buildOptions (g : Generator) : Stub.BuildOptions where
  types := g.target.types
  fallbackPackage := g.fallbackPackage
  emitsTypes := g.target.emitsTypes
  flatNamespace := g.target.flatNamespace

/-- What there is to know about the language with these options. -/
def describe (g : Generator) : Description where
  name := g.target.name
  fileSuffix := g.target.fileSuffix
  templateName := g.target.templateName
  fallbackPackage := g.fallbackPackage
  emitsTypes := g.target.emitsTypes
  flatNamespace := g.target.flatNamespace
  support := if g.needsSupport then g.supportName else .null
  granularity := g.granularity
  scalarTypes := g.target.types.describe

/-! ### The names that a template can use -/

/-- Whether a type lies in a named package that is not the one of the file. -/
def isImported (f : Stub.File) (t : Stub.TypeRef) : Bool :=
  let package := t.package.value f.standIn
  package.truthy && !package.same (f.package.value f.standIn)

/-- The full names of the types of other packages, sorted. -/
def typeImports (f : Stub.File) : List Text.CodePoints :=
  Text.sortedCodes <| Stub.firstOccurrences [] <| (f.externalTypes.filter (isImported f)).map
    fun t => (t.package.value f.standIn).asText ++ .string ("." ++ t.name)

/-- The path of the support file from a generated file; the name of the support file is put behind
a text. -/
def supportImport (f : Stub.File) (support : Value) : Except Breakdown Text.CodePoints :=
  match support with
  | .text name => .ok (.string (String.join (List.replicate f.depth.toNat "../")) ++ name)
  | v => .error (.notAppendable v.typeName)

/-- The paths from a generated file to the message classes of the files whose types it names. -/
def dependencyImports (f : Stub.File) (messagesSuffix : String) : List String :=
  let here := Text.onString Path.directoryOf f.baseName
  Stub.firstOccurrences [] <| f.externalTypes.map fun t =>
    Path.relative (t.file ++ messagesSuffix) here

def importScope (g : Generator) (f : Stub.File) : Except Breakdown Scope :=
  match g.target.imports with
  | .nothing => .ok []
  | .qualifiedNames => .ok [("type_imports", .list ((typeImports f).map Value.text))]
  | .relativePaths suffix => do
    let support ← supportImport f g.supportName
    return [
      ("runtime_import", .text support),
      ("messages_import", .text (f.stem ++ suffix)),
      ("dependency_imports", .list ((dependencyImports f suffix).map Value.string))]

def surroundings (g : Generator) (f : Stub.File) : Except Breakdown Scope := do
  let imports ← g.importScope f
  return [("generator", .text generatorName), ("add_comments", .bool g.options.addComments),
    ("language", .text g.target.name)] ++ imports

def scope (g : Generator) (f : Stub.File) : Except Breakdown Scope := do
  return ("file", f.view) :: (← g.surroundings f)

/-! ### Generating -/

variable {T : Type} [Engine T]

def loadTemplate (g : Generator) : Except TemplateError (LoadedBy T) :=
  match g.template with
  | some text => Template.load g.target.templateName text
  | none => .error (.notFound g.target.templateName)

def build (g : Generator) (f : SchemaFile) : Except Breakdown Stub.File :=
  Stub.ofSchema f g.buildOptions

/-- The name of a generated file; a file for a single service carries its name. -/
def outputName (g : Generator) (f : Stub.File) (service : Option String) : String :=
  let ending := match service with
    | some "" | none => ""
    | some service => "_" ++ Text.onString Identifier.snakeCase service
  f.baseName ++ ending ++ g.target.fileSuffix

def ofBreakdown {α : Type} (result : Except Breakdown α) : Except FileFault α :=
  result.mapError FileFault.broken

/-- The text that the template gives, before its layout. -/
def fillIn (g : Generator) (template : LoadedBy T) (f : Stub.File) (service : Option String) :
    Except FileFault Text.CodePoints := do
  match template.render (← ofBreakdown (g.scope f)) with
  | .ok text => return text
  | .error cause =>
    match cause.breakdown? with
    | some breakdown => throw (.broken breakdown)
    | none => throw (.render ⟨f.schemaName, service, cause⟩)

def render (g : Generator) (template : LoadedBy T) (f : Stub.File) (service : Option String) :
    Except FileFault String := do
  let text ← g.fillIn template f service
  ofBreakdown ((Layout.tidyText text).mapError Breakdown.notBytes)

def output (g : Generator) (template : LoadedBy T) (whole part : Stub.File) (service : Option String) :
    Except FileFault OutputFile := do
  let text ← g.render template part service
  return ⟨g.outputName whole service, text.toUTF8⟩

def generateFile (g : Generator) (template : LoadedBy T) (f : SchemaFile) :
    Except FileFault (List OutputFile) := do
  let file ← ofBreakdown (g.build f)
  match g.granularity with
  | .perFile => return [← g.output template file file none]
  | .perService =>
    file.services.mapM fun s => g.output template file (file.forService s) (some s.name)

/-- Goes on to the next schema file; one that no output is wanted for is only counted. -/
def visit (g : Generator) (template : LoadedBy T) (p : Progress) (f : SchemaFile) :
    Except FileFault Progress :=
  if f.generate then do
    let outputs ← g.generateFile template f
    return { p with outputs := p.outputs ++ outputs, generated := p.generated + 1 }
  else return { p with skipped := p.skipped + 1 }

/-- The template, which is read only once. -/
def acquire (g : Generator) (s : Session T) : Except TemplateError (LoadedBy T) :=
  match s.template with
  | some template => .ok template
  | none => g.loadTemplate

/-- The copy of the support file that goes into the output of a run, if there is one. -/
def bundleSupport (g : Generator) (store : SupportStore) (d : Disk) :
    Except SupportError (Option SupportCopy) × SupportStore :=
  match g.target.support with
  | none => (.ok none, store)
  | some file =>
    if g.needsSupport then
      let (copy, store) := store.bundle d file.name g.supportName
      (copy.map some, store)
    else (.ok none, store)

/-- A copy of a support file as the last one of a run, behind `before` others. A run lists the names
of its files, so they have to be texts. -/
def lastOutput (before : Nat) (copy : SupportCopy) : Except Breakdown OutputFile :=
  match copy.name with
  | .text name => .ok ⟨name, copy.content⟩
  | v => .error (.notJoinable before v.typeName)

/-- What a run did that has visited all schema files. -/
def summary (g : Generator) (p : Progress) : RunSummary where
  language := g.target.name
  fileSuffix := g.target.fileSuffix
  schemaFiles := p.generated
  skippedFiles := p.skipped
  granularity := g.granularity
  support := if g.needsSupport then g.supportName else .null

/-- The result of a run that has visited all schema files. -/
def conclude (g : Generator) (p : Progress) (copy : Option SupportCopy) :
    Except Breakdown RunResult := do
  let last ← copy.mapM (lastOutput p.outputs.length)
  return ⟨p.outputs ++ last.toList, g.summary p⟩

/-- The output of a run, or the first failure: of the template, of a file, of the support file. -/
def run (g : Generator) (s : Session T) (d : Disk) (files : List SchemaFile) :
    Except RunError RunResult × Session T :=
  match g.acquire s with
  | .error cause => (.error (.template cause), s)
  | .ok template =>
    match files.foldlM (g.visit template) {} with
    | .error fault => (.error (.file fault), { s with template })
    | .ok progress =>
      match g.bundleSupport s.store d with
      | (.error cause, store) => (.error (.support cause), ⟨template, store⟩)
      | (.ok copy, store) =>
        ((g.conclude progress copy).mapError RunError.listing, ⟨template, store⟩)

/-- The output of a run with the support files that come with the languages. -/
def runBuiltin (g : Generator) (files : List SchemaFile) : Except RunError RunResult :=
  (g.run { store := SupportStore.builtin } SupportStore.builtinDisk files).1

end Generator

end RpcBindings
