import RpcBindings.Generator
import RpcBindings.Proofs.Stub.Shape

/-! The templates of the languages pass the check of their shapes: they read, and all that they do
in any of their branches is allowed by the names that a generator gives to them. -/
namespace RpcBindings

open Template

def ImportStyle.shapes : ImportStyle → Shapes
  | nothing => []
  | qualifiedNames => [("type_imports", .row .leaf)]
  | relativePaths _ =>
    [("runtime_import", .leaf), ("messages_import", .leaf), ("dependency_imports", .row .leaf)]

namespace Target

/-- The shapes of all names that a template can use. -/
def shapes (target : Target) : Shapes :=
  ("file", Stub.fileShape) :: ("generator", .leaf) :: ("add_comments", .leaf) ::
    ("language", .leaf) :: target.imports.shapes

/-- Whether a text is a template that a language can fill in. -/
def accepts (target : Target) (text : List Char) : Bool :=
  match parse text with
  | .ok nodes => allPass target.shapes nodes
  | .error _ => false

theorem toList_ofLines (lines : List String) :
    (Text.ofLines lines).toList = lines.flatMap fun line => line.toList ++ ['\n'] := by
  rw [Text.ofLines, String.toList_join, List.flatMap_map]
  simp only [String.toList_append]
  rfl

/-- A template that a language can fill in can be read. -/
theorem load_of_accepts {target : Target} {text : String}
    (accepted : target.accepts text.toList = true) (name : String) :
    ∃ nodes, load name text = .ok ⟨name, nodes⟩ ∧ allPass target.shapes nodes = true := by
  rw [accepts] at accepted
  split at accepted
  case h_1 nodes parsed => exact ⟨nodes, by simp [load, parsed], accepted⟩
  case h_2 => cases accepted

-- A template is split into the characters of its lines first: the kernel reads the lines one by one,
-- but not one long text.
set_option maxRecDepth 100000 in
theorem kotlin_accepts : kotlin.accepts kotlin.template.toList = true := by
  have text : kotlin.template.toList = _ := toList_ofLines _
  rw [text]
  simp only [List.flatMap_cons, List.flatMap_nil]
  repeat rw [String.toList_ofList]
  decide +kernel

set_option maxRecDepth 100000 in
theorem swift_accepts : swift.accepts swift.template.toList = true := by
  have text : swift.template.toList = _ := toList_ofLines _
  rw [text]
  simp only [List.flatMap_cons, List.flatMap_nil]
  repeat rw [String.toList_ofList]
  decide +kernel

set_option maxRecDepth 100000 in
theorem dart_accepts : dart.accepts dart.template.toList = true := by
  have text : dart.template.toList = _ := toList_ofLines _
  rw [text]
  simp only [List.flatMap_cons, List.flatMap_nil]
  repeat rw [String.toList_ofList]
  decide +kernel

def builtins : List Target := [kotlin, swift, dart]

/-- The template of each language can be read and filled in by that language. -/
theorem accepts_builtin {target : Target} (builtin : target ∈ builtins) :
    target.accepts target.template.toList = true := by
  simp only [builtins, List.mem_cons, List.not_mem_nil, or_false] at builtin
  rcases builtin with rfl | rfl | rfl
  · exact kotlin_accepts
  · exact swift_accepts
  · exact dart_accepts

end Target

end RpcBindings
