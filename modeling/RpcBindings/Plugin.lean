import RpcBindings.Catalog
import RpcBindings.Wire.Descriptor

/-! The program as a plugin of a schema compiler: one request in, one response out. A request that
fails is answered with the reason and no files; only one that breaks the run down gets no answer. -/
namespace RpcBindings.Plugin

open Wire

/-- A request: the names of the files that output is wanted for, the parameter, and the files. -/
structure Request where
  wanted : List Text.Raw := []
  parameter : String := ""
  files : List Schema.FileDescriptor := []

/-- A generated file in a response, where its name has to be a string. -/
structure ResponseFile where
  name : String
  content : ByteArray

/-- A response: the reason for a failure, or the generated files. -/
structure Response where
  error : Option String
  files : List ResponseFile

/-- The optional features of the compiler that the plugin knows about: fields with explicit
presence. -/
def supportedFeatures : Nat := 1

/-- The output for a request, its options being known. -/
def Request.run (r : Request) (options : Options) (stack : Schema.Stack) : Except Failure RunResult := do
  let generator ← (Catalog.builtin.createWith options.language options).mapError Failure.catalog
  let files ← (Schema.loadFiles r.files r.wanted stack).mapError Failure.schema
  (generator.runBuiltin files).mapError Failure.run

/-- The result of a request, with the warnings about its parameter. -/
def Request.result (r : Request) (look : Path → Disk.Sight) (stack : Schema.Stack) :
    List String × Except Failure RunResult :=
  let (warnings, options) := (Options.Request.ofParameter r.parameter).load look
  match options with
  | .ok options => (warnings, r.run options stack)
  | .error cause => (warnings, .error (.options cause))

def attach (file : OutputFile) : Except Breakdown ResponseFile :=
  match file.name.encodable with
  | .ok name => .ok ⟨name, file.content⟩
  | .error fault => .error (.notBytes fault)

def respondTo (result : Except Failure RunResult) : Except Breakdown Response :=
  match result with
  | .ok result => do return ⟨none, ← result.files.mapM attach⟩
  | .error failure =>
    match failure.breakdown? with
    | some breakdown => .error breakdown
    | none => .ok ⟨some failure.message, []⟩

/-- The answer to a request, with the warnings about its parameter. -/
def Request.respond (r : Request) (look : Path → Disk.Sight) (stack : Schema.Stack) :
    List String × Except Breakdown Response :=
  let (warnings, result) := r.result look stack
  (warnings, respondTo result)

/-! ### Requests and responses as bytes -/

inductive ReadError where
  | malformed
  | broken (cause : Breakdown)
  deriving DecidableEq, Repr

def ReadError.message : ReadError → String
  | malformed => "Error parsing message with type 'google.protobuf.compiler.CodeGeneratorRequest'"
  | broken cause => cause.message

def Request.read (b : List UInt8) : Except ReadError Request :=
  match Content.read .request b with
  | none => .error .malformed
  | some c =>
    match (c.text? 2).getD "" with
    | .bytes _ => .error (.broken .parameterNotText)
    | .text parameter =>
      .ok { wanted := c.texts 1, parameter, files := (c.messages 15).map fileOf }

def writeOutput (file : ResponseFile) : List UInt8 :=
  Field.written ⟨1, .bytes file.name.toUTF8.data.toList⟩ ++
    Field.written ⟨15, .bytes file.content.data.toList⟩

def Response.write (r : Response) : List UInt8 :=
  (r.error.toList.flatMap fun error => Field.written ⟨1, .bytes error.toUTF8.data.toList⟩) ++
    Field.written ⟨2, .varint supportedFeatures⟩ ++
    r.files.flatMap fun file => Field.written ⟨15, .bytes (writeOutput file)⟩

/-- The bytes of the response to the bytes of a request, with the warnings about its parameter. -/
def answer (b : List UInt8) (look : Path → Disk.Sight) (stack : Schema.Stack) :
    List String × Except ReadError (List UInt8) :=
  match Request.read b with
  | .error e => ([], .error e)
  | .ok request =>
    let (warnings, response) := request.respond look stack
    (warnings, (response.map Response.write).mapError ReadError.broken)

end RpcBindings.Plugin
