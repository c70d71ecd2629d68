import RpcBindings.Proofs.Code.Outline
import RpcBindings.Proofs.Path
import RpcBindings.Proofs.Stub.Build
import RpcBindings.Proofs.Target.Template
import RpcBindings.Proofs.Text.Feeds

/-! Generated files whose texts have no line feeds in them, and the names that a template can use for
one of them: whatever a template prints of it stays on its line. -/
namespace RpcBindings

open Outcome Template
open Text (CodePoints OneLine)

namespace Text

theorem oneLine_string {s : String} : OneLine s ↔ '\n' ∉ s.toList := by
  rw [OneLine, CodePoints.chars_string]

theorem OneLine.append {s t : CodePoints} (first : OneLine s) (second : OneLine t) :
    OneLine (s ++ t) := by
  rw [OneLine, CodePoints.chars_append, List.mem_append]
  exact not_or.mpr ⟨first, second⟩

theorem oneLine_intRepr (n : Int) : OneLine n.repr := oneLine_string.mpr (feed_intRepr n)

end Text

theorem bool_oneLine (b : Bool) : Shape.leaf.Fits OneLine (.bool b) := by
  have text : OneLine (Value.bool b).asText := by
    cases b <;> exact Text.oneLine_string.mpr (by decide)
  exact ⟨text, text⟩

theorem int_oneLine (n : Int) : Shape.leaf.Fits OneLine (.int n) :=
  ⟨Text.oneLine_intRepr n, Text.oneLine_intRepr n⟩

namespace Stub

/-- Whether the texts of an enum are lines. -/
structure Enum.Lines (e : Enum) : Prop where
  name : OneLine e.name
  values : ∀ v ∈ e.values, OneLine v.name

structure Field.Lines (f : Field) : Prop where
  name : OneLine f.name
  type : OneLine f.type
  defaultValue : OneLine f.defaultValue

structure Message.Lines (m : Message) : Prop where
  name : OneLine m.name
  fields : ∀ f ∈ m.fields, f.Lines

structure Method.Lines (m : Method) : Prop where
  name : OneLine m.name
  memberName : OneLine m.memberName
  input : OneLine m.input
  output : OneLine m.output

structure Service.Lines (s : Service) : Prop where
  name : OneLine s.name
  methods : ∀ m ∈ s.methods, m.Lines

structure TypeRef.Lines (t : TypeRef) : Prop where
  name : OneLine t.name
  package : ∃ name, t.package = .text name ∧ OneLine name
  file : OneLine t.file

/-- Whether the texts of a file are lines; what names its package and those of others are texts. -/
structure File.Lines (f : File) : Prop where
  schemaName : OneLine f.schemaName
  baseName : OneLine f.baseName
  package : ∃ name, f.package = .text name ∧ OneLine name
  enums : ∀ e ∈ f.enums, e.Lines
  messages : ∀ m ∈ f.messages, m.Lines
  services : ∀ s ∈ f.services, s.Lines
  references : ∀ t ∈ f.externalTypes, t.Lines

/-- Whether what names a type of another file stays on its line when it is printed. -/
structure TypeRef.Printed (standIn : Value) (t : TypeRef) : Prop where
  name : OneLine t.name
  package : Shape.leaf.Fits OneLine (t.package.value standIn)
  file : OneLine t.file

/-- Whether all that a template can print of a file stays on its line. What names its package and
those of others may be a value that is no text, and belongs to the file if it is a function. -/
structure File.Printed (f : File) : Prop where
  schemaName : OneLine f.schemaName
  baseName : OneLine f.baseName
  package : Shape.leaf.Fits OneLine (ownedBy f.view (f.package.value f.standIn))
  enums : ∀ e ∈ f.enums, e.Lines
  messages : ∀ m ∈ f.messages, m.Lines
  services : ∀ s ∈ f.services, s.Lines
  references : ∀ t ∈ f.externalTypes, t.Printed f.standIn

theorem TypeRef.Lines.printed {t : TypeRef} (lines : t.Lines) (standIn : Value) :
    t.Printed standIn where
  name := lines.name
  package := by
    obtain ⟨name, text, line⟩ := lines.package
    rw [text]
    exact text_fits line
  file := lines.file

theorem File.Lines.printed {f : File} (lines : f.Lines) : f.Printed where
  schemaName := lines.schemaName
  baseName := lines.baseName
  package := by
    obtain ⟨name, text, line⟩ := lines.package
    rw [text]
    exact text_fits line
  enums := lines.enums
  messages := lines.messages
  services := lines.services
  references t member := (lines.references t member).printed f.standIn

theorem Enum.Lines.view_fits {e : Enum} (lines : e.Lines) : enumShape.Fits OneLine e.view := by
  have value (v : EnumValue) (member : v ∈ e.values) : enumValueShape.Fits OneLine v.view :=
    ⟨⟨_, rfl, text_fits (lines.values v member)⟩, ⟨_, rfl, int_oneLine v.number⟩, trivial⟩
  exact ⟨⟨_, rfl, text_fits lines.name⟩, ⟨_, rfl, row_fits rfl value⟩, trivial⟩

theorem Field.Lines.view_fits {f : Field} (lines : f.Lines) : fieldShape.Fits OneLine f.view :=
  ⟨⟨_, rfl, text_fits lines.name⟩, ⟨_, rfl, text_fits lines.type⟩, ⟨_, rfl, int_oneLine f.number⟩,
    ⟨_, rfl, text_fits lines.defaultValue⟩, trivial⟩

theorem Message.Lines.view_fits {m : Message} (lines : m.Lines) :
    messageShape.Fits OneLine m.view :=
  ⟨⟨_, rfl, text_fits lines.name⟩,
    ⟨_, rfl, row_fits rfl fun f member => (lines.fields f member).view_fits⟩, trivial⟩

theorem Method.Lines.view_fits {m : Method} (lines : m.Lines) : methodShape.Fits OneLine m.view :=
  ⟨⟨_, rfl, text_fits lines.name⟩, ⟨_, rfl, text_fits lines.memberName⟩,
    ⟨_, rfl, text_fits lines.input⟩, ⟨_, rfl, text_fits lines.output⟩,
    ⟨_, rfl, bool_oneLine m.serverStreaming⟩, trivial⟩

theorem Service.Lines.view_fits {s : Service} (lines : s.Lines) :
    serviceShape.Fits OneLine s.view := by
  have stem : OneLine s.routeStem := by
    have slash : OneLine "/" := Text.oneLine_string.mpr (by decide)
    exact lines.name.append slash
  exact ⟨⟨_, rfl, text_fits lines.name⟩, ⟨_, rfl, text_fits stem⟩,
    ⟨_, rfl, row_fits rfl fun m member => (lines.methods m member).view_fits⟩,
    ⟨_, rfl, "route", s.routeStem, s.view, rfl⟩, trivial⟩

theorem File.Printed.stem {f : File} (printed : f.Printed) : OneLine f.stem :=
  Text.oneLine_string.mpr fun member =>
    Text.oneLine_string.mp printed.baseName (Path.mem_of_mem_name member)

theorem File.Printed.view_fits {f : File} (printed : f.Printed) : fileShape.Fits OneLine f.view :=
  ⟨⟨_, rfl, text_fits printed.schemaName⟩, ⟨_, rfl, text_fits printed.baseName⟩,
    ⟨_, f.held_package, printed.package⟩,
    ⟨_, rfl, row_fits rfl fun e member => (printed.enums e member).view_fits⟩,
    ⟨_, rfl, row_fits rfl fun m member => (printed.messages m member).view_fits⟩,
    ⟨_, rfl, row_fits rfl fun s member => (printed.services s member).view_fits⟩,
    ⟨_, rfl, text_fits printed.stem⟩, ⟨_, rfl, int_oneLine f.depth⟩, trivial⟩

end Stub

/-! ### The names that a template can use -/

namespace Generator

variable (g : Generator)

theorem typeImports_oneLine {f : Stub.File} (printed : f.Printed) :
    ∀ s ∈ typeImports f, OneLine s := by
  intro s member
  obtain ⟨t, listed, -, rfl⟩ := mem_typeImports.mp member
  have reference := printed.references t listed
  have dot : OneLine "." := Text.oneLine_string.mpr (by decide)
  exact reference.package.2.append (dot.append reference.name)

theorem supportImport_oneLine {f : Stub.File} {support path : CodePoints} (line : OneLine support)
    (made : supportImport f (.text support) = .ok path) : OneLine path := by
  cases made
  have ups : OneLine (String.join (List.replicate f.depth.toNat "../")) := by
    rw [Text.oneLine_string, String.toList_join, List.mem_flatMap]
    rintro ⟨up, member, inside⟩
    rw [List.eq_of_mem_replicate member] at inside
    exact absurd inside (by decide)
  exact ups.append line

theorem dependencyImports_oneLine {f : Stub.File} (printed : f.Printed) {suffix : String}
    (ending : OneLine suffix) : ∀ s ∈ dependencyImports f suffix, OneLine s := by
  intro s member
  obtain ⟨t, listed, rfl⟩ := List.mem_map.mp (Stub.mem_firstOccurrences member)
  have target : OneLine (t.file ++ suffix : String) := (printed.references t listed).file.append ending
  rw [Text.oneLine_string] at target ⊢
  intro inside
  rcases Path.mem_relative inside with dot | slash | own
  · cases dot
  · cases slash
  · exact target own

/-- Whether the texts that a language itself puts into the names for a template are lines. -/
structure Lines : Prop where
  language : OneLine g.target.name
  support : ∀ s, g.supportName = .text s → OneLine s
  imports : ∀ suffix, g.target.imports = .relativePaths suffix → OneLine suffix

variable {g}

theorem Lines.importScope_fit (own : g.Lines) {f : Stub.File} (printed : f.Printed) {names : Scope}
    (made : g.importScope f = .ok names) : g.target.imports.shapes.Fit OneLine names := by
  unfold importScope at made
  cases style : g.target.imports with
  | nothing =>
    rw [style] at made
    cases made
    exact Shapes.fit_nil _
  | qualifiedNames =>
    rw [style] at made
    cases made
    have imports : (Shape.row .leaf).Fits OneLine (.list ((typeImports f).map Value.text)) :=
      row_fits rfl fun s member => text_fits (typeImports_oneLine printed s member)
    exact (Shapes.fit_nil _).cons imports "type_imports"
  | relativePaths suffix =>
    simp only [style] at made
    obtain ⟨path, found, rest⟩ := bind_ok_iff.mp made
    cases rest
    have support : OneLine path := by
      cases name : g.supportName with
      | text s =>
        rw [name] at found
        exact supportImport_oneLine (own.support s name) found
      | _ => rw [name] at found; cases found
    have ending := own.imports suffix style
    have others : (Shape.row .leaf).Fits OneLine
        (.list ((dependencyImports f suffix).map Value.string)) :=
      row_fits rfl fun s member => text_fits (dependencyImports_oneLine printed ending s member)
    exact (((Shapes.fit_nil _).cons others "dependency_imports").cons
      (text_fits (printed.stem.append ending)) "messages_import").cons
      (text_fits support) "runtime_import"

/-- Whatever a template prints of a file stays on its line if all that can be printed of it does. -/
theorem Lines.printed_fit (own : g.Lines) {f : Stub.File} (printed : f.Printed) {names : Scope}
    (made : g.scope f = .ok names) : g.target.shapes.Fit OneLine names := by
  obtain ⟨around, surrounded, rest⟩ := bind_ok_iff.mp made
  cases rest
  obtain ⟨imports, imported, rest⟩ := bind_ok_iff.mp surrounded
  cases rest
  have others := own.importScope_fit printed imported
  have program : OneLine generatorName := Text.oneLine_string.mpr (by decide)
  exact (((others.cons (text_fits own.language) "language").cons
    (bool_oneLine _) "add_comments").cons (text_fits program) "generator").cons
    printed.view_fits "file"

theorem Lines.scope_fit (own : g.Lines) {f : Stub.File} (lines : f.Lines) {names : Scope}
    (made : g.scope f = .ok names) : g.target.shapes.Fit OneLine names :=
  own.printed_fit lines.printed made

end Generator

end RpcBindings
