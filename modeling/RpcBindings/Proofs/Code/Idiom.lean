import RpcBindings.Proofs.Code.Outline
import RpcBindings.Proofs.Target.Template

/-! How services look in the code of each language: the lines that make up clients, handlers and
routers, and what each of them says about a method. The templates are laid out alike: for every
service they have all members of the client, then all of the handler, then all cases of the router. -/
namespace RpcBindings

open Template

namespace Code

/-- What a line of the code for a service does. -/
inductive Role where
  /-- Declares a member of the client: its name, what it takes and what it gives. -/
  | client (streaming : Bool)
  /-- Passes a route to the runtime, for a stream of answers or for a single one. -/
  | passes (streaming : Bool)
  /-- Reads an answer as a message of some type. -/
  | decodes
  /-- Declares a member of the handler: its name, what it takes and what it gives. -/
  | handler (streaming : Bool)
  /-- Opens the case of the router for a route. -/
  | label
  /-- Reads the request as a message of some type, or declares it as one. -/
  | receives
  /-- Asks a member of the handler for answers or for a single one. -/
  | asks (streaming : Bool)
  /-- Sends an answer that others may follow. -/
  | chunk
  /-- Ends the answers. -/
  | finish
  /-- Sends the only answer. -/
  | answer
  deriving DecidableEq, Repr

/-- The words in the code for a service. -/
inductive Slot where
  | service
  | name
  | input
  | output
  | route
  deriving DecidableEq, Repr

def Slot.expr : Slot → Expr
  | service => .member (.var "service") "name"
  | name => .member (.var "method") "method_name"
  | input => .member (.var "method") "input"
  | output => .member (.var "method") "output"
  | route => .call (.member (.var "service") "route") (.var "method")

def Slot.of? : Expr → Option Slot
  | .member (.var "service") "name" => some service
  | .member (.var "method") "method_name" => some name
  | .member (.var "method") "input" => some input
  | .member (.var "method") "output" => some output
  | .call (.member (.var "service") "route") (.var "method") => some route
  | _ => none

def wording : Wording Slot where
  expr := Slot.expr
  slot? := Slot.of?
  expr_of_slot? := by
    intro e s found
    unfold Slot.of? at found
    split at found <;> cases found <;> rfl

/-- The code for services in a language. -/
structure Idiom where
  phrases : List (Phrase Role Slot)
  /-- Whether members of the client name the type that they read a single answer as. -/
  typedAnswer : Bool := true
  /-- How often a case of the router names the type of the request. -/
  receipts : Nat := 1

namespace Idiom

variable (idiom : Idiom)

/-- What a member of the client says of its method. -/
def member (streaming : Bool) : List (Fact Role Slot) :=
  [⟨.client streaming, [.name, .input, .output]⟩, ⟨.passes streaming, [.route]⟩] ++
    if streaming || idiom.typedAnswer then [⟨.decodes, [.output]⟩] else []

/-- What a member of the handler says of its method. -/
def signature (streaming : Bool) : List (Fact Role Slot) :=
  [⟨.handler streaming, [.name, .input, .output]⟩]

/-- What a case of the router says of its method before it asks the handler. -/
def opening : List (Fact Role Slot) :=
  ⟨.label, [.route]⟩ :: List.replicate idiom.receipts ⟨.receives, [.input]⟩

/-- What a case of the router says of its method from there on. -/
def answering (streaming : Bool) : List (Fact Role Slot) :=
  ⟨.asks streaming, [.name]⟩ ::
    if streaming then [⟨.chunk, []⟩, ⟨.finish, []⟩] else [⟨.answer, []⟩]

/-- The outline of a loop over the methods of a service. -/
def eachMethod (before : List (Fact Role Slot)) (told : Bool → List (Fact Role Slot)) :
    Outline Role Slot :=
  .loop "method" "service" "methods"
    (.tell before (.choice "method" "server_streaming" (.tell (told true) .nothing)
      (.tell (told false) .nothing) .nothing))
    .nothing

/-- The outline of what is written for a service: the client, the handler and the router, each under
a heading with the name of the service. -/
def ofService : Outline Role Slot :=
  [.word .service .nothing, eachMethod [] idiom.member,
    .word .service .nothing, eachMethod [] signature,
    .word .service .nothing, eachMethod idiom.opening answering].foldr .append .nothing

def ofFile : Outline Role Slot := .loop "service" "file" "services" idiom.ofService .nothing

/-- Whether a template is written in an idiom. -/
def fits (target : Target) (text : List Char) : Bool :=
  idiom.phrases.all Phrase.isClear &&
    match parse text with
    | .ok nodes => outlineAll idiom.phrases wording target.shapes [] nodes = some (idiom.ofFile, [])
    | .error _ => false

end Idiom

/-! ### The languages -/


def kotlin : Idiom where
  typedAnswer := false
  phrases := [
    ⟨code "fun " ++ gap .name ++ code "(request: " ++ gap .input ++ code "): Flow<" ++ gap .output ++
        code "> =",
      [⟨.client true, [.name, .input, .output]⟩]⟩,
    ⟨code "Kalam.instance.stream(\"" ++ gap .route ++ code "\", ProtoBuf.encodeToByteArray(request))",
      [⟨.passes true, [.route]⟩]⟩,
    ⟨code ".map \x7b ProtoBuf.decodeFromByteArray<" ++ gap .output ++ code ">(it) \x7d",
      [⟨.decodes, [.output]⟩]⟩,
    ⟨code "suspend fun " ++ gap .name ++ code "(request: " ++ gap .input ++ code "): " ++
        gap .output ++ code " \x7b",
      [⟨.client false, [.name, .input, .output]⟩]⟩,
    ⟨code "val bytes = Kalam.instance.call(\"" ++ gap .route ++
        code "\", ProtoBuf.encodeToByteArray(request))",
      [⟨.passes false, [.route]⟩]⟩,
    ⟨code "fun " ++ gap .name ++ code "(request: " ++ gap .input ++ code "): Flow<" ++ gap .output ++
        code ">",
      [⟨.handler true, [.name, .input, .output]⟩]⟩,
    ⟨code "suspend fun " ++ gap .name ++ code "(request: " ++ gap .input ++ code "): " ++ gap .output,
      [⟨.handler false, [.name, .input, .output]⟩]⟩,
    ⟨code "\"" ++ gap .route ++ code "\" -> \x7b", [⟨.label, [.route]⟩]⟩,
    ⟨code "val request = ProtoBuf.decodeFromByteArray<" ++ gap .input ++ code ">(payload)",
      [⟨.receives, [.input]⟩]⟩,
    ⟨code "handler." ++ gap .name ++ code "(request).collect \x7b", [⟨.asks true, [.name]⟩]⟩,
    ⟨code "sink.sendChunk(ProtoBuf.encodeToByteArray(it))", [⟨.chunk, []⟩]⟩,
    ⟨code "sink.sendEnd()", [⟨.finish, []⟩]⟩,
    ⟨code "sink.sendUnary(ProtoBuf.encodeToByteArray(handler." ++ gap .name ++ code "(request)))",
      [⟨.asks false, [.name]⟩, ⟨.answer, []⟩]⟩]

def swift : Idiom where
  receipts := 2
  phrases := [
    ⟨code "static func " ++ gap .name ++ code "(_ request: " ++ gap .input ++
        code ") -> AsyncThrowingStream<" ++ gap .output ++ code ", Error> \x7b",
      [⟨.client true, [.name, .input, .output]⟩]⟩,
    ⟨code "Kalam.shared.stream(\"" ++ gap .route ++ code "\", payload, onChunk: \x7b data in",
      [⟨.passes true, [.route]⟩]⟩,
    ⟨code "continuation.yield(try " ++ gap .output ++ code "(serializedData: data))",
      [⟨.decodes, [.output]⟩]⟩,
    ⟨code "static func " ++ gap .name ++ code "(_ request: " ++ gap .input ++
        code ") async throws -> " ++ gap .output ++ code " \x7b",
      [⟨.client false, [.name, .input, .output]⟩]⟩,
    ⟨code "Kalam.shared.call(\"" ++ gap .route ++ code "\", payload) \x7b result in",
      [⟨.passes false, [.route]⟩]⟩,
    ⟨code "return try " ++ gap .output ++ code "(serializedData: data)", [⟨.decodes, [.output]⟩]⟩,
    ⟨code "func " ++ gap .name ++ code "(_ request: " ++ gap .input ++
        code ", onChunk: @escaping (" ++ gap .output ++ code ") -> Void, onEnd: @escaping () -> Void)",
      [⟨.handler true, [.name, .input, .output]⟩]⟩,
    ⟨code "func " ++ gap .name ++ code "(_ request: " ++ gap .input ++
        code ", completion: @escaping (Result<" ++ gap .output ++ code ", Error>) -> Void)",
      [⟨.handler false, [.name, .input, .output]⟩]⟩,
    ⟨code "case \"" ++ gap .route ++ code "\":", [⟨.label, [.route]⟩]⟩,
    ⟨code "let request: " ++ gap .input, [⟨.receives, [.input]⟩]⟩,
    ⟨code "request = try " ++ gap .input ++ code "(serializedData: payload)",
      [⟨.receives, [.input]⟩]⟩,
    ⟨code "handler." ++ gap .name ++ code "(request, onChunk: \x7b response in",
      [⟨.asks true, [.name]⟩]⟩,
    ⟨code "sink.sendChunk(try response.serializedData())", [⟨.chunk, []⟩]⟩,
    ⟨code "sink.sendEnd()", [⟨.finish, []⟩]⟩,
    ⟨code "handler." ++ gap .name ++ code "(request) \x7b result in", [⟨.asks false, [.name]⟩]⟩,
    ⟨code "sink.sendUnary(try response.serializedData())", [⟨.answer, []⟩]⟩]

def dart : Idiom where
  phrases := [
    ⟨code "static Stream<" ++ gap .output ++ code "> " ++ gap .name ++ code "(" ++ gap .input ++
        code " request) \x7b",
      [⟨.client true, [.name, .input, .output]⟩]⟩,
    ⟨code ".stream('" ++ gap .route ++ code "', request.writeToBuffer())",
      [⟨.passes true, [.route]⟩]⟩,
    ⟨code ".map((bytes) => " ++ gap .output ++ code ".fromBuffer(bytes));",
      [⟨.decodes, [.output]⟩]⟩,
    ⟨code "static Future<" ++ gap .output ++ code "> " ++ gap .name ++ code "(" ++ gap .input ++
        code " request) async \x7b",
      [⟨.client false, [.name, .input, .output]⟩]⟩,
    ⟨code "final bytes = await Kalam.instance.call('" ++ gap .route ++
        code "', request.writeToBuffer());",
      [⟨.passes false, [.route]⟩]⟩,
    ⟨code "return " ++ gap .output ++ code ".fromBuffer(bytes);", [⟨.decodes, [.output]⟩]⟩,
    ⟨code "Stream<" ++ gap .output ++ code "> " ++ gap .name ++ code "(" ++ gap .input ++
        code " request);",
      [⟨.handler true, [.name, .input, .output]⟩]⟩,
    ⟨code "Future<" ++ gap .output ++ code "> " ++ gap .name ++ code "(" ++ gap .input ++
        code " request);",
      [⟨.handler false, [.name, .input, .output]⟩]⟩,
    ⟨code "case '" ++ gap .route ++ code "':", [⟨.label, [.route]⟩]⟩,
    ⟨code "final request = " ++ gap .input ++ code ".fromBuffer(payload);",
      [⟨.receives, [.input]⟩]⟩,
    ⟨code "await for (final response in handler." ++ gap .name ++ code "(request)) \x7b",
      [⟨.asks true, [.name]⟩]⟩,
    ⟨code "sink.sendChunk(response.writeToBuffer());", [⟨.chunk, []⟩]⟩,
    ⟨code "sink.sendEnd();", [⟨.finish, []⟩]⟩,
    ⟨code "final response = await handler." ++ gap .name ++ code "(request);",
      [⟨.asks false, [.name]⟩]⟩,
    ⟨code "sink.sendUnary(response.writeToBuffer());", [⟨.answer, []⟩]⟩]

/-- The languages with their idioms. -/
def dialects : List (Target × Idiom) :=
  [(.kotlin, kotlin), (.swift, swift), (.dart, dart)]

theorem targets_of_dialects : dialects.map (·.1) = Target.builtins := rfl

-- The templates are split into the characters of their lines, as where their shapes are checked.
set_option maxRecDepth 100000 in
theorem kotlin_fits : kotlin.fits .kotlin Target.kotlin.template.toList = true := by
  have text : Target.kotlin.template.toList = _ := Target.toList_ofLines _
  rw [text]
  simp only [List.flatMap_cons, List.flatMap_nil]
  repeat rw [String.toList_ofList]
  decide +kernel

set_option maxRecDepth 100000 in
theorem swift_fits : swift.fits .swift Target.swift.template.toList = true := by
  have text : Target.swift.template.toList = _ := Target.toList_ofLines _
  rw [text]
  simp only [List.flatMap_cons, List.flatMap_nil]
  repeat rw [String.toList_ofList]
  decide +kernel

set_option maxRecDepth 100000 in
theorem dart_fits : dart.fits .dart Target.dart.template.toList = true := by
  have text : Target.dart.template.toList = _ := Target.toList_ofLines _
  rw [text]
  simp only [List.flatMap_cons, List.flatMap_nil]
  repeat rw [String.toList_ofList]
  decide +kernel

/-- The template of each language is written in its idiom. -/
theorem fits_of_dialects {target : Target} {idiom : Idiom} (spoken : (target, idiom) ∈ dialects) :
    idiom.fits target target.template.toList = true := by
  simp only [dialects, List.mem_cons, Prod.mk.injEq, List.not_mem_nil, or_false] at spoken
  rcases spoken with ⟨rfl, rfl⟩ | ⟨rfl, rfl⟩ | ⟨rfl, rfl⟩
  · exact kotlin_fits
  · exact swift_fits
  · exact dart_fits

end Code

end RpcBindings
