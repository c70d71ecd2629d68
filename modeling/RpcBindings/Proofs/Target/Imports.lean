import RpcBindings.Proofs.Path.Relative
import RpcBindings.Proofs.Stub.External
import RpcBindings.Proofs.Target.Names

/-! Where the imports of a generated Dart file lead. Each of its three kinds is written in a way of its
own: the support file behind pairs of dots, the file's own messages by a bare name, the messages of
other files by relative paths. Seen from the directory of the generated file, all of them lead to the
files that they are meant for. -/
namespace RpcBindings

namespace Generator

open Outcome RpcBindings.Path

variable {g : Generator} {f : Stub.File}

theorem stem_eq (last : isMeaningful (lastPart f.baseName.toList) = true) :
    f.stem = String.ofList (lastPart f.baseName.toList) := by
  rw [Stub.File.stem, name, ofString, components_eq, if_pos last, List.getLastD_concat]

theorem depth_eq (descends : Descends f.baseName)
    (last : isMeaningful (lastPart f.baseName.toList) = true) :
    f.depth.toNat = (leading f.baseName.toList).length := by
  rw [Stub.File.depth, depth_of_descends descends last]
  omega

/-- The imports of a generated file, as the template finds them. -/
structure Imports (names : Template.Scope) (support messages : String) (dependencies : List String) :
    Prop where
  support : names.lookup "runtime_import" = some (.text (.string support))
  messages : names.lookup "messages_import" = some (.text (.string messages))
  dependencies : names.lookup "dependency_imports" = some (.list (dependencies.map .string))

theorem scope_of_importScope {names : Template.Scope} (imported : g.importScope f = .ok names) :
    g.scope f = .ok (("file", f.view) :: ([("generator", .text generatorName),
      ("add_comments", .bool g.options.addComments), ("language", .text g.target.name)] ++ names)) := by
  rw [scope, surroundings, imported]
  rfl

theorem scope_imports {suffix r : String} (style : g.target.imports = .relativePaths suffix)
    (named : g.supportName = .text (.string r)) :
    ∃ names, g.scope f = .ok names ∧
      Imports names (String.join (List.replicate f.depth.toNat "../") ++ r) (f.stem ++ suffix)
        (dependencyImports f suffix) := by
  have imported : g.importScope f = .ok [
      ("runtime_import", .text (.string (String.join (List.replicate f.depth.toNat "../") ++ r))),
      ("messages_import", .text (.string (f.stem ++ suffix))),
      ("dependency_imports", .list ((dependencyImports f suffix).map Value.string))] := by
    simp only [importScope, style, supportImport, named, ok_bind, pure_ok]
    rfl
  exact ⟨_, scope_of_importScope imported, rfl, rfl, rfl⟩

/-- The place that the messages of a schema file have in the output of the generator of messages. -/
def messagesPlace (file : String) : Place := (ofString (file ++ ".pb.dart")).place

/-- How a generated file names the messages of another schema file. -/
def messagesPath (f : Stub.File) (file : String) : String :=
  Path.relative (file ++ ".pb.dart") (Text.onString directoryOf f.baseName)

theorem dependencyImports_eq (f : Stub.File) : dependencyImports f ".pb.dart" =
    Stub.firstOccurrences [] ((f.externalTypes.map (·.file)).map (messagesPath f)) := by
  simp only [dependencyImports, List.map_map, Function.comp_def, messagesPath]

/-- Messages that lie at one place are named in one way. -/
theorem messagesPath_congr {file other : String} (same : messagesPlace file = messagesPlace other) :
    messagesPath f file = messagesPath f other := by
  rw [messagesPlace, messagesPlace] at same
  rw [messagesPath, messagesPath, Path.relative, Path.relative, same]

/-- Paths that lead from a generated file to messages are listed once for each place. -/
theorem dependencyImports_lead {file : String}
    (lead : ∀ t ∈ f.externalTypes, seenFrom file (messagesPath f t.file) = messagesPlace t.file) :
    (dependencyImports f ".pb.dart").map (seenFrom file) =
      Stub.firstOccurrences [] (f.externalTypes.map fun t => messagesPlace t.file) := by
  have apart : ∀ x ∈ (f.externalTypes.map (·.file)).map (messagesPath f),
      ∀ y ∈ (f.externalTypes.map (·.file)).map (messagesPath f),
      seenFrom file x = seenFrom file y → x = y := by
    simp only [List.mem_map]
    rintro _ ⟨_, ⟨t, first, rfl⟩, rfl⟩ _ ⟨_, ⟨u, second, rfl⟩, rfl⟩ same
    rw [lead t first, lead u second] at same
    exact messagesPath_congr same
  have places : ((f.externalTypes.map (·.file)).map (messagesPath f)).map (seenFrom file) =
      f.externalTypes.map fun t => messagesPlace t.file := by
    simp only [List.map_map, Function.comp_def]
    exact List.map_congr_left lead
  have once := Stub.firstOccurrences_map apart (List.nil_subset _) (List.Subset.refl _)
  rw [dependencyImports_eq, ← once, List.map_nil, places]

/-- Every import of a generated Dart file leads to its file: that of the support file to where the
options put it, that of the file's own messages to the messages of this schema file, and those of other
messages, one for each place, to the messages of the files that declare the types. -/
theorem imports_lead (g : Generator) (dart : g.target = Target.dart) (f : Stub.File)
    (descends : Descends f.baseName) (last : isMeaningful (lastPart f.baseName.toList) = true)
    (others : ∀ t ∈ f.externalTypes, Descends t.file) (r : String)
    (named : g.supportName = .text (.string r)) (relative : rootOf r.toList = "")
    (service : Option String) (free : ∀ name ∈ service, '/' ∉ name.toList) :
    ∃ names support messages dependencies,
      g.scope f = .ok names ∧ Imports names support messages dependencies ∧
      seenFrom (g.outputName f service) support = (ofString r).place ∧
      seenFrom (g.outputName f service) messages = messagesPlace f.baseName ∧
      dependencies.Nodup ∧
      dependencies.map (seenFrom (g.outputName f service)) =
        Stub.firstOccurrences [] (f.externalTypes.map fun t => messagesPlace t.file) ∧
      ∀ t ∈ f.externalTypes, ∃ d ∈ dependencies,
        seenFrom (g.outputName f service) d = messagesPlace t.file := by
  have style : g.target.imports = .relativePaths ".pb.dart" := by rw [dart]; rfl
  have builtin : g.target ∈ Target.builtins := by rw [dart]; simp [Target.builtins]
  have ending := isEnding_ending builtin free
  have suffix : IsEnding ".pb.dart".toList := by constructor <;> decide
  obtain ⟨names, made, imports⟩ := scope_imports (f := f) style named
  have lead : ∀ t ∈ f.externalTypes,
      seenFrom (g.outputName f service) (messagesPath f t.file) = messagesPlace t.file := by
    intro t member
    rw [outputName_eq]
    exact seenFrom_relative ending descends suffix (others t member)
  have listed := dependencyImports_eq f
  refine ⟨names, _, _, _, made, imports, ?_, ?_, ?_, dependencyImports_lead lead, ?_⟩
  · rw [outputName_eq, depth_eq descends last]
    exact seenFrom_ups ending descends relative
  · rw [outputName_eq, stem_eq last]
    exact seenFrom_lastPart ending descends suffix
  · rw [listed]
    exact Stub.nodup_firstOccurrences _ _
  · intro t member
    refine ⟨messagesPath f t.file, ?_, lead t member⟩
    rw [listed]
    apply Stub.mem_firstOccurrences_of_mem _ List.not_mem_nil
    exact List.mem_map_of_mem (List.mem_map_of_mem member)

/-- A file two directories down that names types of two other files, one of them in two spellings. -/
def nested : Stub.File where
  schemaName := "a/./b/svc.proto"
  baseName := "a/./b/svc"
  package := .text "a.b"
  standIn := .null
  enums := []
  messages := []
  services := []
  externalTypes := [⟨"X", .text "c", "a/c/x"⟩, ⟨"Y", .text "y", "y"⟩, ⟨"Z", .text "c", "a//c/x"⟩]

theorem imports_lead_nested : ∃ names support messages dependencies,
    (⟨Target.dart, {}, none⟩ : Generator).scope nested = .ok names ∧
    Imports names support messages dependencies ∧
    seenFrom "a/./b/svc_pay_bill.klm.dart" support = ⟨false, 0, ["kalam.dart"]⟩ ∧
    seenFrom "a/./b/svc_pay_bill.klm.dart" messages = ⟨false, 0, ["a", "b", "svc.pb.dart"]⟩ ∧
    dependencies.map (seenFrom "a/./b/svc_pay_bill.klm.dart") =
      [⟨false, 0, ["a", "c", "x.pb.dart"]⟩, ⟨false, 0, ["y.pb.dart"]⟩] := by
  have others : ∀ t ∈ nested.externalTypes, Descends t.file := by
    have all : ∀ t ∈ nested.externalTypes,
        rootOf t.file.toList = "" ∧ ".." ∉ components t.file.toList := by decide +kernel
    exact fun t member => descends_of_down (all t member).1 (all t member).2
  have named : (⟨Target.dart, {}, none⟩ : Generator).outputName nested (some "PayBill") =
      "a/./b/svc_pay_bill.klm.dart" := by decide +kernel
  obtain ⟨names, support, messages, dependencies, made, imports, first, second, -, third, -⟩ :=
    imports_lead ⟨Target.dart, {}, none⟩ rfl nested
      (descends_of_down (by decide +kernel) (by decide +kernel))
      (by decide +kernel) others "kalam.dart" rfl (by decide +kernel) (some "PayBill")
      (by decide +kernel)
  rw [named] at first second third
  exact ⟨names, support, messages, dependencies, made, imports, first.trans (by decide +kernel),
    second.trans (by decide +kernel), third.trans (by decide +kernel)⟩

end Generator

end RpcBindings
