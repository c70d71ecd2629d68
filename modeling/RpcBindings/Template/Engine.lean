import RpcBindings.Template.Parser
import RpcBindings.Template.Render

/-! Named templates, read and filled in by an engine. A run sees nothing of its engine but the texts
that it gives and the errors that it has, so that any other one can take its place. The program's own
engine knows the part of the template language that the parser describes. -/
namespace RpcBindings.Template

/-- An engine, by what a template is to it once it is read. It has errors that it reports; all else
that goes wrong in it is a breakdown. -/
class Engine (T : Type) where
  read : (source : List Char) → Except ParseError T
  fill : (scope : Scope) → T → Except RenderError Text.CodePoints

@[default_instance]
instance : Engine (List Node) where
  read := parse
  fill := renderAll

@[simp] theorem read_eq_parse (source : List Char) : Engine.read source = parse source := rfl

@[simp] theorem fill_eq_renderAll (scope : Scope) (nodes : List Node) :
    Engine.fill scope nodes = renderAll scope nodes := rfl

/-- A template as an engine has read it. -/
structure LoadedBy (T : Type) where
  name : String
  content : T

abbrev Loaded := LoadedBy (List Node)

inductive TemplateError where
  | notFound (name : String)
  | parse (name : String) (cause : ParseError)
  | render (name : String) (cause : RenderError)
  deriving DecidableEq, Repr

/-- The breakdown behind an error, if it is one. -/
def TemplateError.breakdown? : TemplateError → Option Breakdown
  | parse _ (.broken cause) | render _ (.broken cause) => some cause
  | _ => none

def TemplateError.message : TemplateError → String
  | notFound name => s!"Template not found: {name}"
  | parse name cause => s!"Failed to parse template {name}: {cause.message}"
  | render name cause => s!"Failed to render template {name}: {cause.message}"

section

variable {T : Type} [Engine T]

def load (name source : String) : Except TemplateError (LoadedBy T) :=
  match Engine.read source.toList with
  | .ok content => .ok ⟨name, content⟩
  | .error cause => .error (.parse name cause)

/-- The text of a template filled in with the given names. -/
def LoadedBy.render (t : LoadedBy T) (scope : Scope) : Except TemplateError Text.CodePoints :=
  match Engine.fill scope t.content with
  | .ok text => .ok text
  | .error cause => .error (.render t.name cause)

end

end RpcBindings.Template
