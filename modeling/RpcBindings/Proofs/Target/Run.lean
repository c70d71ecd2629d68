import RpcBindings.Proofs.Catalog
import RpcBindings.Proofs.Run.Output
import RpcBindings.Proofs.Target.Generate

/-! Runs of the languages that come with the program. Their templates and support files are always
there, so that such a run fails only where a value of its options takes the place of a text. -/
namespace RpcBindings

open Outcome Schema

namespace Catalog

/-- What the catalog makes is a language that comes with the program, with its own template. -/
theorem builtin_of_createWith {language : String} {options : Options} {g : Generator}
    (made : builtin.createWith language options = .ok g) : g.Builtin := by
  obtain ⟨⟨name, target⟩, resolved, done⟩ := bind_ok_iff.mp made
  cases done
  have registered : builtin.targets.lookup name = some target := (resolve_ok_iff.mp resolved).2
  have member : target ∈ builtin.targets.map (·.2) := List.mem_map_of_mem (mem_of_lookup registered)
  exact ⟨member, rfl⟩

theorem options_of_createWith {language : String} {options : Options} {g : Generator}
    (made : builtin.createWith language options = .ok g) : g.options = options := by
  obtain ⟨_, -, done⟩ := bind_ok_iff.mp made
  cases done
  rfl

end Catalog

namespace Generator

variable {g : Generator} {template : Template.Loaded}

theorem Builtin.read_support (builtin : g.Builtin) {asset : SupportFile}
    (held : g.target.support = some asset) :
    (SupportStore.builtin.read SupportStore.builtinDisk asset.name).1 = .ok asset.text.toUTF8 :=
  SupportStore.read_builtin (List.mem_filterMap.mpr ⟨g.target, builtin.target, held⟩)

theorem output_name {whole part : Stub.File} {service : Option String} {file : OutputFile}
    (made : g.output template whole part service = .ok file) :
    file.name = .string (g.outputName whole service) := by
  obtain ⟨_, _, -, -, rfl⟩ := (output_ok_iff g).mp made
  rfl

theorem generateFile_names {f : SchemaFile} {slice : List OutputFile}
    (generated : g.generateFile template f = .ok slice) :
    ∀ file ∈ slice, ∃ name, file.name = .string name := by
  obtain ⟨stub, built⟩ : ∃ stub, g.build f = .ok stub := by
    refine ok_of_not_error fun cause unbuilt => ?_
    rw [(generateFile_error_iff g).mpr (.build unbuilt)] at generated
    cases generated
  cases whole : g.granularity with
  | perFile =>
    rw [generateFile_perFile g built whole] at generated
    obtain ⟨output, made, rfl⟩ := map_ok_iff.mp generated
    intro file member
    cases List.mem_singleton.mp member
    exact ⟨_, output_name made⟩
  | perService =>
    rw [generateFile_perService g built whole] at generated
    intro file member
    obtain ⟨s, -, made⟩ := mapM_ok_origin generated file member
    exact ⟨_, output_name made⟩

/-- In one of the languages only a value that is no text or has no bytes breaks a file down, and
nothing else makes it fail. -/
theorem Builtin.fault_broken (builtin : g.Builtin) (loaded : g.loadTemplate = .ok template)
    {f : SchemaFile} {fault : FileFault} (failed : g.generateFile template f = .error fault) :
    ∃ cause, fault = .broken cause ∧ (Stub.BuildFailure f g.buildOptions cause ∨
      cause = .notAppendable g.supportName.typeName ∨ ∃ fault, cause = .notBytes fault) := by
  rcases builtin.fileFailure Text.any_inherited loaded ⟨trivial, trivial⟩ (fun _ _ => trivial) failed
    with ⟨cause, unbuilt, rfl⟩ | ⟨part, cause, unnamed, rfl⟩ | ⟨text, cause, -, -, rfl⟩
  · exact ⟨cause, rfl, .inl unbuilt⟩
  · obtain ⟨-, -, rfl⟩ := (importScope_error_iff g).mp unnamed
    exact ⟨_, rfl, .inr (.inl rfl)⟩
  · exact ⟨_, rfl, .inr (.inr ⟨cause, rfl⟩)⟩

/-- The files of a request are those of a new generator, and the support files those that come with
the languages. -/
theorem runBuiltin_eq (files : List SchemaFile) : g.runBuiltin files =
    (g.run ⟨g.heldTemplate [], SupportStore.builtin⟩ SupportStore.builtinDisk files).1 := rfl

/-- Whether every marked file is generated, with these outputs. -/
def Finished (g : Generator) (files : List SchemaFile) (slices : List (List OutputFile)) : Prop :=
  ∃ template, g.loadTemplate = .ok template ∧
    List.Forall₂ (fun f slice => g.generateFile template f = .ok slice) (marked files) slices

theorem Finished.names {files : List SchemaFile} {slices : List (List OutputFile)}
    (finished : g.Finished files slices) : ∀ file ∈ slices.flatten, ∃ name, file.name = .string name := by
  obtain ⟨template, -, each⟩ := finished
  intro file member
  obtain ⟨slice, part, inside⟩ := List.mem_flatten.mp member
  obtain ⟨f, -, generated⟩ := mapM_ok_origin (mapM_ok_iff.mpr each) slice part
  exact generateFile_names generated file inside

/-- A run in one of the languages fails on a file or in the list of its output. -/
theorem Builtin.runBuiltin_error_iff (builtin : g.Builtin) {files : List SchemaFile}
    {e : RunError} :
    g.runBuiltin files = .error e ↔
      (∃ template before f after cause, g.loadTemplate = .ok template ∧
        files = before ++ f :: after ∧ f.generate = true ∧ g.AllGenerated template before ∧
        g.FileFailure template f (.broken cause) ∧ e = .file (.broken cause)) ∨
      ∃ slices, g.Finished files slices ∧ g.needsSupport = true ∧ g.supportName.NoText ∧
        e = .listing (.notJoinable slices.flatten.length g.supportName.typeName) := by
  rw [runBuiltin_eq, g.run_error_iff]
  -- The template and the support file are at hand, which leaves the files and the list.
  constructor
  · intro failure
    cases failure with
    | template unread =>
      obtain ⟨template, loaded, -⟩ := builtin.load
      cases loaded.symm.trans unread
    | file loaded split wanted fine failure =>
      obtain ⟨cause, rfl, -⟩ :=
        builtin.fault_broken loaded ((generateFile_error_iff g).mpr failure)
      exact .inl ⟨_, _, _, _, _, loaded, split, wanted, fine, failure, rfl⟩
    | support _ _ _ held new refused =>
      have unread := SupportStore.read_error_iff.mpr ⟨new, _, refused, rfl⟩
      cases (builtin.read_support held).symm.trans unread
    | listing loaded each needed _ _ noText =>
      exact .inr ⟨_, ⟨_, loaded, each⟩, needed, noText, rfl⟩
  · rintro (⟨template, before, f, after, cause, loaded, split, wanted, fine, failure, rfl⟩ |
      ⟨slices, ⟨template, loaded, each⟩, needed, noText, rfl⟩)
    · exact .file loaded split wanted fine failure
    · obtain ⟨⟨asset, held⟩, -⟩ := (needsSupport_iff g).mp needed
      exact .listing loaded each needed held (builtin.read_support held) noText

/-- A run that finishes its files and has a text for its support file returns. -/
theorem Builtin.runBuiltin_ok (builtin : g.Builtin) {files : List SchemaFile}
    {slices : List (List OutputFile)} {name : Text.CodePoints} (finished : g.Finished files slices)
    (named : g.supportName = .text name) : ∃ result, g.runBuiltin files = .ok result := by
  refine ok_of_not_error fun e failed => ?_
  rcases builtin.runBuiltin_error_iff.mp failed with
    ⟨template, before, f, after, cause, loaded, rfl, wanted, -, failure, -⟩ | ⟨_, -, -, noText, -⟩
  · obtain ⟨other, read, each⟩ := finished
    cases read.symm.trans loaded
    have member : f ∈ marked (before ++ f :: after) := by simp [wanted]
    obtain ⟨slice, generated⟩ := mapM_ok_members (mapM_ok_iff.mpr each) f member
    cases generated.symm.trans ((generateFile_error_iff g).mpr failure)
  · exact noText name named

end Generator

end RpcBindings
