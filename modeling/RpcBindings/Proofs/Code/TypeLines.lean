import RpcBindings.Proofs.Code.Sections
import RpcBindings.Proofs.Template.Exact

/-! The lines of Kotlin types, to the letter. An enum is a block of lines with one for each of its
constants, and a message is one with a line for each of its fields; the template writes the block of
every enum and then that of every message of a file, and an empty line in front of each. -/
namespace RpcBindings

open Template
open Text (OneLine)

namespace Text

theorem ofLines_cons (line : String) (lines : List String) :
    ofLines (line :: lines) = line ++ "\n" ++ ofLines lines := by
  rw [ofLines, List.map_cons, String.join_cons]
  rfl

theorem ofLines_append (lines more : List String) :
    ofLines (lines ++ more) = ofLines lines ++ ofLines more := by
  rw [ofLines, List.map_append, String.join_append]
  rfl

theorem ofLines_flatMap {α : Type} (all : List α) (lines : α → List String) :
    ofLines (all.flatMap lines) = String.join (all.map fun x => ofLines (lines x)) := by
  induction all with
  | nil => rfl
  | cons x rest ih => rw [List.flatMap_cons, ofLines_append, ih, List.map_cons, String.join_cons]

end Text

namespace Code

/-! ### Lines of types -/

/-- The line of a constant of an enum. -/
def constantLine (number : Int) (name : String) : String :=
  "    @ProtoNumber(" ++ number.repr ++ ") " ++ name ++ ","

/-- The line of a field of a message. -/
def propertyLine (number : Int) (name type value : String) : String :=
  "    @ProtoNumber(" ++ number.repr ++ ") val " ++ name ++ ": " ++ type ++ " = " ++ value ++ ","

/-- What stands on the line in front of a declaration. -/
def declarationMark : String := "@Serializable"

def enumHeading (name : String) : String := "enum class " ++ name ++ " \x7b"

def messageHeading (name : String) : String := "data class " ++ name ++ "("

def bareHeading (name : String) : String := "class " ++ name

end Code

namespace Stub

open Code

def EnumValue.line (v : EnumValue) : String := constantLine v.number v.name

/-- The lines of the constants of an enum; if it has none, one stands in. -/
def Enum.constants (e : Enum) : List String :=
  if e.values = [] then ["    UNKNOWN,"] else e.values.map (·.line)

def Enum.code (e : Enum) : List String :=
  [declarationMark, enumHeading e.name] ++ e.constants ++ ["\x7d"]

def Field.line (f : Field) : String := propertyLine f.number f.name f.type f.defaultValue

def Message.heading (m : Message) : String :=
  if m.fields = [] then bareHeading m.name else messageHeading m.name

/-- The lines of the fields of a message, with what closes them; there are none if it has no fields. -/
def Message.properties (m : Message) : List String :=
  if m.fields = [] then [] else m.fields.map (·.line) ++ [")"]

def Message.code (m : Message) : List String := [declarationMark, m.heading] ++ m.properties

section

variable {P : String → Prop}

/-! What is true of the lines that there can be in a type is true of all its lines. -/

theorem Enum.forall_constants {e : Enum} (unknown : P "    UNKNOWN,") (values : ∀ v ∈ e.values, P v.line) :
    ∀ l ∈ e.constants, P l := by
  rw [constants]
  split
  case isTrue => exact List.forall_mem_singleton.mpr unknown
  case isFalse => exact List.forall_mem_map.mpr values

theorem Enum.forall_code {e : Enum} (mark : P declarationMark) (heading : P (enumHeading e.name))
    (constants : ∀ l ∈ e.constants, P l) (brace : P "\x7d") : ∀ l ∈ e.code, P l := by
  refine List.forall_mem_append.mpr ⟨?_, List.forall_mem_singleton.mpr brace⟩
  exact List.forall_mem_cons.mpr ⟨mark, List.forall_mem_cons.mpr ⟨heading, constants⟩⟩

theorem Message.forall_properties {m : Message} (fields : ∀ f ∈ m.fields, P f.line) (bracket : P ")") :
    ∀ l ∈ m.properties, P l := by
  rw [properties]
  split
  case isTrue => exact nofun
  case isFalse =>
    refine List.forall_mem_append.mpr ⟨List.forall_mem_map.mpr fields, ?_⟩
    exact List.forall_mem_singleton.mpr bracket

theorem Message.forall_code {m : Message} (mark : P declarationMark) (heading : P m.heading)
    (properties : ∀ l ∈ m.properties, P l) : ∀ l ∈ m.code, P l :=
  List.forall_mem_cons.mpr ⟨mark, List.forall_mem_cons.mpr ⟨heading, properties⟩⟩

end

/-- The lines of all types that a file declares, without empty ones. -/
def File.typeCode (f : File) : List String := f.enums.flatMap (·.code) ++ f.messages.flatMap (·.code)

/-- The same lines as the template writes them, with an empty one in front of each type. -/
def File.typeLines (f : File) : List String :=
  f.enums.flatMap (fun e => "" :: e.code) ++ f.messages.flatMap fun m => "" :: m.code

end Stub

namespace Code

/-! ### The part of the template -/

def valueNodes : List Template.Node := [
  .text "    @ProtoNumber(".toList, .print (.member (.var "value") "number"), .text ") ".toList,
  .print (.member (.var "value") "name"), .text ",\n".toList]

def enumNodes : List Template.Node := [
  .text "\n@Serializable\nenum class ".toList, .print (.member (.var "enum") "name"),
  .text " \x7b\n".toList,
  .loop "value" (.member (.var "enum") "values") valueNodes [.text "    UNKNOWN,\n".toList],
  .text "\x7d\n".toList]

def fieldNodes : List Template.Node := [
  .text "    @ProtoNumber(".toList, .print (.member (.var "field") "proto_number"),
  .text ") val ".toList, .print (.member (.var "field") "name"), .text ": ".toList,
  .print (.member (.var "field") "type"), .text " = ".toList,
  .print (.member (.var "field") "default_value"), .text ",\n".toList]

def filledNodes : List Template.Node := [
  .text "data class ".toList, .print (.member (.var "message") "name"), .text "(\n".toList,
  .loop "field" (.member (.var "message") "fields") fieldNodes [], .text ")\n".toList]

def bareNodes : List Template.Node := [
  .text "class ".toList, .print (.member (.var "message") "name"), .text "\n".toList]

def messageNodes : List Template.Node := [
  .text "\n@Serializable\n".toList,
  .choice (.member (.var "message") "fields") filledNodes bareNodes]

/-- The part of a template that declares types. -/
def typeNodes : List Template.Node := [
  .loop "enum" (.member (.var "file") "enums") enumNodes [],
  .loop "message" (.member (.var "file") "messages") messageNodes []]

section

variable {scope : Scope}

theorem render_valueNodes {v : Stub.EnumValue} (found : scope.lookup "value" = some v.view) :
    renderAll scope valueNodes = .ok (.string (v.line ++ "\n")) := by
  have number : (Expr.member (.var "value") "number").eval scope = .ok (.int v.number) :=
    Expr.eval_member found rfl
  have name : (Expr.member (.var "value") "name").eval scope = .ok (.text v.name) :=
    Expr.eval_member found rfl
  have parts := renderAll_cons (Node.render_text "    @ProtoNumber(") <|
    renderAll_cons (Node.render_number number) <| renderAll_cons (Node.render_text ") ") <|
    renderAll_cons (Node.render_print name) <| renderAll_singleton (Node.render_text ",\n")
  have ending : ",\n" = "," ++ "\n" := by decide
  rw [ending] at parts
  simp only [← String.append_assoc] at parts
  exact parts

theorem ofLines_constants (e : Stub.Enum) : Text.ofLines e.constants =
    if e.values = [] then "    UNKNOWN,\n" else String.join (e.values.map fun v => v.line ++ "\n") := by
  rw [Stub.Enum.constants]
  split
  · decide
  · rw [Text.ofLines, List.map_map]
    rfl

theorem render_enumNodes {e : Stub.Enum} (found : scope.lookup "enum" = some e.view) :
    renderAll scope enumNodes = .ok (.string (Text.ofLines ("" :: e.code))) := by
  have name : (Expr.member (.var "enum") "name").eval scope = .ok (.text e.name) :=
    Expr.eval_member found rfl
  have values : (Expr.member (.var "enum") "values").eval scope =
      .ok (.tuple (e.values.map (·.view))) := Expr.eval_member found rfl
  have constants : (Node.loop "value" (.member (.var "enum") "values") valueNodes
      [.text "    UNKNOWN,\n".toList]).render scope = .ok (.string (Text.ofLines e.constants)) := by
    rw [ofLines_constants]
    exact Node.render_loop values (fun v _ _ found => render_valueNodes found)
      (renderAll_singleton (Node.render_text _))
  have parts := renderAll_cons (Node.render_text "\n@Serializable\nenum class ") <|
    renderAll_cons (Node.render_print name) <| renderAll_cons (Node.render_text " \x7b\n") <|
    renderAll_cons constants <| renderAll_singleton (Node.render_text "\x7d\n")
  have opening : "\n@Serializable\nenum class " = "" ++ "\n" ++ ("@Serializable" ++ "\n") ++ "enum class " := by
    decide
  have brace : " \x7b\n" = " \x7b" ++ "\n" := by decide
  have closing : "\x7d\n" = Text.ofLines ["\x7d"] := by decide
  rw [opening, brace, closing] at parts
  refine parts.trans ?_
  simp only [Stub.Enum.code, Text.ofLines_cons, Text.ofLines_append, List.cons_append, List.nil_append,
    declarationMark, enumHeading, String.append_assoc]

theorem render_fieldNodes {f : Stub.Field} (found : scope.lookup "field" = some f.view) :
    renderAll scope fieldNodes = .ok (.string (f.line ++ "\n")) := by
  have number : (Expr.member (.var "field") "proto_number").eval scope = .ok (.int f.number) :=
    Expr.eval_member found rfl
  have name : (Expr.member (.var "field") "name").eval scope = .ok (.text f.name) :=
    Expr.eval_member found rfl
  have type : (Expr.member (.var "field") "type").eval scope = .ok (.text f.type) :=
    Expr.eval_member found rfl
  have value : (Expr.member (.var "field") "default_value").eval scope = .ok (.text f.defaultValue) :=
    Expr.eval_member found rfl
  have parts := renderAll_cons (Node.render_text "    @ProtoNumber(") <|
    renderAll_cons (Node.render_number number) <| renderAll_cons (Node.render_text ") val ") <|
    renderAll_cons (Node.render_print name) <| renderAll_cons (Node.render_text ": ") <|
    renderAll_cons (Node.render_print type) <| renderAll_cons (Node.render_text " = ") <|
    renderAll_cons (Node.render_print value) <| renderAll_singleton (Node.render_text ",\n")
  have ending : ",\n" = "," ++ "\n" := by decide
  rw [ending] at parts
  simp only [← String.append_assoc] at parts
  exact parts

section

variable {m : Stub.Message} (found : scope.lookup "message" = some m.view)
include found

theorem eval_messageName :
    (Expr.member (.var "message") "name").eval scope = .ok (.text m.name) :=
  Expr.eval_member found rfl

theorem eval_messageFields : (Expr.member (.var "message") "fields").eval scope =
    .ok (.tuple (m.fields.map (·.view))) :=
  Expr.eval_member found rfl

theorem render_bareNodes (bare : m.fields = []) :
    renderAll scope bareNodes = .ok (.string (Text.ofLines (m.heading :: m.properties))) := by
  have parts := renderAll_cons (Node.render_text "class ") <|
    renderAll_cons (Node.render_print (eval_messageName found)) <|
    renderAll_singleton (Node.render_text "\n")
  refine parts.trans ?_
  simp only [Stub.Message.heading, Stub.Message.properties, bare, if_true, bareHeading, Text.ofLines_cons,
    String.append_assoc]
  rfl

theorem render_filledNodes (filled : m.fields ≠ []) :
    renderAll scope filledNodes = .ok (.string (Text.ofLines (m.heading :: m.properties))) := by
  have fields : (Node.loop "field" (.member (.var "message") "fields") fieldNodes []).render scope =
      .ok (.string (Text.ofLines (m.fields.map (·.line)))) := by
    rw [Text.ofLines, List.map_map]
    exact Node.render_loop_nil (eval_messageFields found) fun _ _ _ held => render_fieldNodes held
  have parts := renderAll_cons (Node.render_text "data class ") <|
    renderAll_cons (Node.render_print (eval_messageName found)) <|
    renderAll_cons (Node.render_text "(\n") <| renderAll_cons fields <|
    renderAll_singleton (Node.render_text ")\n")
  have bracket : "(\n" = "(" ++ "\n" := by decide
  have closing : ")\n" = Text.ofLines [")"] := by decide
  rw [bracket, closing] at parts
  refine parts.trans ?_
  simp only [Stub.Message.heading, Stub.Message.properties, filled, if_false, messageHeading,
    Text.ofLines_cons, Text.ofLines_append, String.append_assoc]

theorem render_messageNodes :
    renderAll scope messageNodes = .ok (.string (Text.ofLines ("" :: m.code))) := by
  have declaration : (Node.choice (.member (.var "message") "fields") filledNodes bareNodes).render scope =
      .ok (.string (Text.ofLines (m.heading :: m.properties))) := by
    rw [Node.render, eval_messageFields found, Outcome.ok_bind]
    by_cases bare : m.fields = []
    · rw [if_neg (by simp [Value.truthy, bare])]
      exact render_bareNodes found bare
    · rw [if_pos (by simpa [Value.truthy] using bare)]
      exact render_filledNodes found bare
  have parts := renderAll_cons (Node.render_text "\n@Serializable\n") (renderAll_singleton declaration)
  have opening : "\n@Serializable\n" = "" ++ "\n" ++ ("@Serializable" ++ "\n") := by decide
  rw [opening] at parts
  refine parts.trans ?_
  simp only [Stub.Message.code, Text.ofLines_cons, List.cons_append, List.nil_append, declarationMark,
    String.append_assoc]

end

/-- The part of the template that declares types gives the lines of all of them. -/
theorem render_typeNodes {file : Stub.File} (found : scope.lookup "file" = some file.view) :
    renderAll scope typeNodes = .ok (.string (Text.ofLines file.typeLines)) := by
  have enums : (Node.loop "enum" (.member (.var "file") "enums") enumNodes []).render scope = _ :=
    Node.render_loop_nil (listed_enums found).found fun _ _ _ held => render_enumNodes held
  have messages : (Node.loop "message" (.member (.var "file") "messages") messageNodes []).render scope =
      _ :=
    Node.render_loop_nil (listed_messages found).found fun _ _ _ held => render_messageNodes held
  refine (renderAll_cons enums (renderAll_singleton messages)).trans ?_
  rw [Stub.File.typeLines, Text.ofLines_append, Text.ofLines_flatMap, Text.ofLines_flatMap]

end

end Code

end RpcBindings
