import RpcBindings.Proofs.Identifier.Recase
import RpcBindings.Proofs.Path.Components
import RpcBindings.Proofs.Target.Run

/-! The names under which a run puts its output. A generated file is named by its schema file, whose
extension gives way to an ending without slashes; the support file is named by the options. -/
namespace RpcBindings

open Outcome Schema

namespace Identifier

/-- The words of a name bring no characters below the small letters into it but underscores. -/
theorem mem_snakeCase {s : List Char} {c : Char} (member : c ∈ snakeCase s) :
    c ∈ s ∨ c = '_' ∨ 'a'.toNat ≤ c.toNat := by
  rcases mem_snakeCase_cases member with bar | ⟨d, listed, rfl⟩
  · exact .inr (.inl bar)
  · rcases oneOf_cases Text.lowerOf d with same | form
    · exact .inl (by rwa [small, same])
    · have member : small d ∈ Text.lowerOf d := by
        rw [form]
        exact List.mem_singleton_self _
      rcases Text.mem_lowerOf member with same | high
      · exact .inl (by rwa [same])
      · exact .inr (.inr high)

end Identifier

namespace Generator

variable {g : Generator} {template : Template.Loaded}

/-- What stands in the name of a generated file for the service that it is generated from. -/
def servicePart : Option String → String
  | some "" | none => ""
  | some service => "_" ++ Text.onString Identifier.snakeCase service

/-- What the name of a generated file has behind that of its schema file. -/
def ending (g : Generator) (service : Option String) : String :=
  servicePart service ++ g.target.fileSuffix

theorem outputName_eq (f : Stub.File) (service : Option String) :
    g.outputName f service = f.baseName ++ g.ending service := String.append_assoc

theorem isEnding_suffix (builtin : g.target ∈ Target.builtins) :
    Path.IsEnding g.target.fileSuffix.toList := by
  have all : ∀ target ∈ Target.builtins,
      '/' ∉ target.fileSuffix.toList ∧ 2 < target.fileSuffix.toList.length := by decide +kernel
  exact ⟨(all g.target builtin).1, (all g.target builtin).2⟩

/-- No ending has a slash in it unless a service has one in its name. -/
theorem isEnding_ending (builtin : g.target ∈ Target.builtins) {service : Option String}
    (free : ∀ name ∈ service, '/' ∉ name.toList) : Path.IsEnding (g.ending service).toList := by
  have suffix := isEnding_suffix builtin
  rw [ending, String.toList_append]
  refine ⟨?_, ?_⟩
  · rw [List.mem_append, not_or]
    refine ⟨?_, suffix.free⟩
    unfold servicePart
    split
    · exact List.not_mem_nil
    · exact List.not_mem_nil
    next name _ =>
      rw [String.toList_append, List.mem_append, Text.toList_onString]
      rintro (bar | word)
      · simp at bar
      · rcases Identifier.mem_snakeCase word with own | bar | high
        · exact free name rfl own
        · cases bar
        · revert high
          decide
  · have long := suffix.long
    rw [List.length_append]
    omega

/-- The names of the files that are generated from a schema file. -/
def fileNames (g : Generator) (f : SchemaFile) : List String :=
  let name service := Stub.stripExtension f.name ++ g.ending service
  match g.granularity with
  | .perFile => [name none]
  | .perService => f.services.map fun s => name (some s.name)

/-- The names that a support file goes by in the output. -/
def supportNames (g : Generator) : List Text.CodePoints :=
  match g.needsSupport, g.supportName with
  | true, .text name => [name]
  | _, _ => []

/-- Where schema files are generated as a whole, each gives one name. -/
theorem flatMap_fileNames (whole : g.granularity = .perFile) (files : List SchemaFile) :
    files.flatMap g.fileNames =
      files.map fun f => Stub.stripExtension f.name ++ g.target.fileSuffix := by
  have each : g.fileNames = fun f => [Stub.stripExtension f.name ++ g.target.fileSuffix] := by
    funext f
    rw [fileNames, whole]
    simp [ending, servicePart]
  rw [each, List.map_eq_flatMap]

theorem flatMap_fileNames_string (whole : g.granularity = .perFile) (files : List SchemaFile) :
    (files.flatMap g.fileNames).map Text.CodePoints.string =
      (files.map (·.name)).map fun name => .string (Stub.stripExtension name ++ g.target.fileSuffix) := by
  rw [flatMap_fileNames whole, List.map_map, List.map_map]
  rfl

/-- Without another one in the options the support file keeps its name. -/
theorem supportNames_unset (unset : g.options.runtimeOutput = .null) :
    g.supportNames = if g.options.bundleRuntime then
      (g.target.support.map fun file => .string file.name).toList else [] := by
  cases held : g.target.support with
  | none => simp [supportNames, needsSupport, held]
  | some file =>
    cases bundled : g.options.bundleRuntime with
    | true => simp [supportNames, supportName, needsSupport, held, bundled, unset, Value.truthy]
    | false => simp [supportNames, needsSupport, bundled]

theorem generateFile_fileNames {f : SchemaFile} {slice : List OutputFile}
    (generated : g.generateFile template f = .ok slice) :
    slice.map (·.name) = (g.fileNames f).map .string := by
  obtain ⟨file, built⟩ : ∃ file, g.build f = .ok file := by
    refine ok_of_not_error fun cause unbuilt => ?_
    rw [(generateFile_error_iff g).mpr (.build unbuilt)] at generated
    cases generated
  obtain ⟨typePrefix, types, -, -, rfl⟩ := Stub.ofSchema_ok built
  cases whole : g.granularity with
  | perFile =>
    rw [generateFile_perFile g built whole] at generated
    obtain ⟨output, made, rfl⟩ := map_ok_iff.mp generated
    simp only [fileNames, whole, List.map_cons, List.map_nil, output_name made, outputName_eq]
  | perService =>
    rw [generateFile_perService g built whole] at generated
    have named := mapM_ok_map (fun _ _ made => output_name made) generated
    simp only [named, fileNames, whole, List.map_map, outputName_eq]
    simp [Stub.buildService, Function.comp_def]

/-- The files of a run by their names, and nothing but them, in their order. -/
theorem run_names {earlier : List Call} {store : SupportStore} {d : Disk} {files : List SchemaFile}
    {result : RunResult} (returned : (g.run ⟨g.heldTemplate earlier, store⟩ d files).1 = .ok result) :
    result.files.map (·.name) =
      ((marked files).flatMap g.fileNames).map .string ++ g.supportNames := by
  obtain ⟨slices, last, delivered⟩ := g.delivered_of_run returned
  obtain ⟨template, -, each⟩ := delivered.generated
  have named := mapM_ok_map (fun _ _ made => generateFile_fileNames made) (mapM_ok_iff.mpr each)
  have support : last.toList.map (·.name) = g.supportNames := by
    cases last with
    | none =>
      have unneeded : g.needsSupport = false := by simpa using delivered.bundled.present_iff
      rw [supportNames, unneeded]
      rfl
    | some file =>
      obtain ⟨-, -, -, name⟩ := delivered.bundled.copied file rfl
      have needed : g.needsSupport = true := by simpa using delivered.bundled.present_iff
      rw [supportNames, needed, name]
      rfl
  rw [delivered.files_eq, List.map_append, support, List.map_flatten, named, List.flatMap_def,
    List.map_flatten, List.map_map]
  rfl

theorem runBuiltin_names {files : List SchemaFile} {result : RunResult}
    (returned : g.runBuiltin files = .ok result) :
    result.files.map (·.name) =
      ((marked files).flatMap g.fileNames).map .string ++ g.supportNames :=
  run_names (runBuiltin_eq files ▸ returned)

/-- A run whose settings are strings or unset returns. -/
theorem Builtin.runBuiltin_strings (builtin : g.Builtin)
    (fallback : g.options.fallbackPackage.UnsetOr Text.IsString)
    (output : g.options.runtimeOutput.UnsetOr Text.IsString) (files : List SchemaFile) :
    ∃ result, g.runBuiltin files = .ok result := by
  refine ok_of_not_error fun e failed => ?_
  rcases builtin.runBuiltin_error_iff.mp failed with
    ⟨template, before, f, after, cause, loaded, -, -, -, failure, -⟩ | ⟨_, -, needed, noText, -⟩
  · obtain ⟨outputs, done⟩ := builtin.generateFile_strings loaded f fallback output
    cases done.symm.trans ((generateFile_error_iff g).mpr failure)
  · obtain ⟨⟨asset, held⟩, -⟩ := (needsSupport_iff g).mp needed
    obtain ⟨s, named, -⟩ := g.supportName_text Text.isString_inherited.toInherited held output
    exact noText s named

end Generator

end RpcBindings
