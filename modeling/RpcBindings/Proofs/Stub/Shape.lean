import RpcBindings.Proofs.Template.Shape
import RpcBindings.Stub.View

/-! The shapes of generated files as templates see them: which members there are of each part, and
what a template may do with each of them. -/
namespace RpcBindings.Stub

open Template
open Text (CodePoints)

def enumValueShape : Shape := .object [("name", .leaf), ("number", .leaf)]

def enumShape : Shape := .object [("name", .leaf), ("values", .row enumValueShape)]

def fieldShape : Shape :=
  .object [("name", .leaf), ("type", .leaf), ("proto_number", .leaf), ("default_value", .leaf)]

def messageShape : Shape := .object [("name", .leaf), ("fields", .row fieldShape)]

def methodShape : Shape :=
  .object [("name", .leaf), ("method_name", .leaf), ("input", .leaf), ("output", .leaf),
    ("server_streaming", .leaf)]

def serviceShape : Shape :=
  .object [("name", .leaf), ("prefix", .leaf), ("methods", .row methodShape), ("route", .route)]

def fileShape : Shape :=
  .object [("file_name", .leaf), ("proto_name", .leaf), ("package_name", .leaf),
    ("enums", .row enumShape), ("messages", .row messageShape), ("services", .row serviceShape),
    ("stem", .leaf), ("depth", .leaf)]

/-- Whether the texts of a file that do not come from its schema are good: what names its package
and those of other files, and the names of messages, which may carry a prefix. -/
structure File.Good (good : CodePoints → Prop) (f : File) : Prop where
  package : Shape.leaf.Fits good (f.package.value f.standIn)
  methods : ∀ s ∈ f.services, ∀ m ∈ s.methods, good m.input ∧ good m.output
  references : ∀ t ∈ f.externalTypes, Shape.leaf.Fits good (t.package.value f.standIn)

variable {good : CodePoints → Prop}

theorem string_fits (inherited : Inherited good) (s : String) :
    Shape.leaf.Fits good (.text (.string s)) :=
  text_fits (inherited.string s)

theorem int_fits (inherited : Inherited good) (n : Int) : Shape.leaf.Fits good (.int n) :=
  ⟨inherited.string _, inherited.string _⟩

theorem EnumValue.view_fits (inherited : Inherited good) (v : EnumValue) :
    enumValueShape.Fits good v.view :=
  ⟨⟨_, rfl, string_fits inherited v.name⟩, ⟨_, rfl, int_fits inherited v.number⟩, trivial⟩

theorem Enum.view_fits (inherited : Inherited good) (e : Enum) : enumShape.Fits good e.view :=
  ⟨⟨_, rfl, string_fits inherited e.name⟩,
    ⟨_, rfl, row_fits rfl fun v _ => v.view_fits inherited⟩, trivial⟩

theorem Field.view_fits (inherited : Inherited good) (f : Field) : fieldShape.Fits good f.view :=
  ⟨⟨_, rfl, string_fits inherited f.name⟩, ⟨_, rfl, string_fits inherited f.type⟩,
    ⟨_, rfl, int_fits inherited f.number⟩, ⟨_, rfl, string_fits inherited f.defaultValue⟩, trivial⟩

theorem Message.view_fits (inherited : Inherited good) (m : Message) :
    messageShape.Fits good m.view :=
  ⟨⟨_, rfl, string_fits inherited m.name⟩,
    ⟨_, rfl, row_fits rfl fun f _ => f.view_fits inherited⟩, trivial⟩

theorem Method.view_fits (inherited : Inherited good) {m : Method}
    (types : good m.input ∧ good m.output) : methodShape.Fits good m.view :=
  ⟨⟨_, rfl, string_fits inherited m.name⟩, ⟨_, rfl, string_fits inherited m.memberName⟩,
    ⟨_, rfl, text_fits types.1⟩, ⟨_, rfl, text_fits types.2⟩,
    ⟨_, rfl, bool_fits inherited m.serverStreaming⟩, trivial⟩

theorem Service.view_fits (inherited : Inherited good) {s : Service}
    (types : ∀ m ∈ s.methods, good m.input ∧ good m.output) : serviceShape.Fits good s.view :=
  ⟨⟨_, rfl, string_fits inherited s.name⟩, ⟨_, rfl, string_fits inherited s.routeStem⟩,
    ⟨_, rfl, row_fits rfl fun m member => m.view_fits inherited (types m member)⟩,
    ⟨_, rfl, "route", s.routeStem, s.view, rfl⟩, trivial⟩

theorem File.held_package (f : File) :
    held? f.view "package_name" = some (ownedBy f.view (f.package.value f.standIn)) := rfl

/-- What names the package can be printed. A function would belong to the file that holds it. -/
theorem File.package_fits (inherited : Inherited good) {f : File} (fine : f.Good good) :
    ∃ w, held? f.view "package_name" = some w ∧ Shape.leaf.Fits good w := by
  refine ⟨_, f.held_package, ?_⟩
  have package := fine.package
  generalize f.package.value f.standIn = v at package
  cases v with
  | method name action owner => exact ⟨inherited.string _, inherited.string _⟩
  | _ => exact package

theorem File.view_fits (inherited : Inherited good) {f : File} (fine : f.Good good) :
    fileShape.Fits good f.view :=
  ⟨⟨_, rfl, string_fits inherited f.schemaName⟩, ⟨_, rfl, string_fits inherited f.baseName⟩,
    File.package_fits inherited fine, ⟨_, rfl, row_fits rfl fun e _ => e.view_fits inherited⟩,
    ⟨_, rfl, row_fits rfl fun m _ => m.view_fits inherited⟩,
    ⟨_, rfl, row_fits rfl fun s member => s.view_fits inherited (fine.methods s member)⟩,
    ⟨_, rfl, string_fits inherited f.stem⟩, ⟨_, rfl, int_fits inherited f.depth⟩, trivial⟩

theorem File.Good.forService {f : File} (fine : f.Good good) {s : Service} (member : s ∈ f.services) :
    (f.forService s).Good good where
  package := fine.package
  methods := by
    intro other only
    cases List.mem_singleton.mp only
    exact fine.methods s member
  references := fine.references

end RpcBindings.Stub
