import RpcBindings.Entries
import RpcBindings.Path
import RpcBindings.Template.Engine

/-! Where named templates are found: in memory or in a directory. -/
namespace RpcBindings.Template

/-- Where templates come from: texts by name, or a directory's files by relative path. -/
inductive Library where
  | memory (texts : List (String × String))
  | directory (files : List (String × String))
  deriving DecidableEq, Repr

namespace Library

/-- The path of a file in a directory that a template's name stands for; going up is not allowed. -/
def pathOf? (name : String) : Option String :=
  let parts := (Path.ofString name).parts
  if parts.contains ".." then none else some (String.intercalate "/" parts)

def text? (l : Library) (name : String) : Option String :=
  match l with
  | memory texts => texts.lookup name
  | directory files => (pathOf? name).bind fun path => files.lookup path

/-- Adds a text; a library on a directory becomes one in memory that holds nothing else. -/
def add (l : Library) (name text : String) : Library :=
  match l with
  | memory texts => memory (putEntry name text texts)
  | directory _ => memory [(name, text)]

def get (l : Library) (name : String) : Except TemplateError Loaded :=
  match l.text? name with
  | some text => load name text
  | none => .error (.notFound name)

end Library

end RpcBindings.Template
