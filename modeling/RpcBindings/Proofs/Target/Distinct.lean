import Mathlib.Data.List.Nodup
import Mathlib.Data.List.Pairwise
import RpcBindings.Proofs.Identifier.SnakeCase
import RpcBindings.Proofs.Stub.Plain
import RpcBindings.Proofs.Target.Names

/-! When the output of a run has a name of its own for each file. Files for whole schema files have, if
these do. Files for services need not: writing a service in snake case loses what letters were capital,
and a file may be named like another file with a service. -/
namespace RpcBindings

open Outcome Schema

namespace Stub

theorem toList_stripExtension {name : String} (ends : extension <:+ name.toList) :
    (stripExtension name).toList ++ extension = name.toList := by
  obtain ⟨front, whole⟩ := ends
  have found : extension.isSuffixOf name.toList = true :=
    List.isSuffixOf_iff_suffix.mpr ⟨front, whole⟩
  have cut : name.toList.take (name.toList.length - extension.length) = front := by
    rw [← whole, List.length_append, Nat.add_sub_cancel, List.take_left]
  rw [stripExtension, if_pos found, String.toList_ofList, cut, whole]

/-- Files that end in the extension are told apart without it. -/
theorem stripExtension_injective {name other : String} (ends : extension <:+ name.toList)
    (endsToo : extension <:+ other.toList) (same : stripExtension name = stripExtension other) :
    name = other := by
  have whole := toList_stripExtension ends
  rw [same, toList_stripExtension endsToo] at whole
  exact String.toList_injective whole.symm

end Stub

/-! ### Names in snake case -/

namespace Identifier

/-- Whether a name starts in a capital letter and goes on with letters and digits. -/
def CamelCase (s : List Char) : Prop :=
  (∃ c ∈ s.head?, c.isUpper = true) ∧ ∀ c ∈ s, c.isAlphanum = true

instance (s : List Char) : Decidable (CamelCase s) :=
  decidable_of_iff (s.head?.any Char.isUpper = true ∧ s.all Char.isAlphanum = true)
    (and_congr (Option.any_eq_true ..) List.all_eq_true)

/-- Reads a name in snake case back: what stands behind an underscore was a capital letter. -/
def readSnake : List Char → List Char
  | '_' :: c :: rest => c.toUpper :: readSnake rest
  | c :: rest => c :: readSnake rest
  | [] => []

theorem isWordChar_of_isAlphanum {c : Char} (letter : c.isAlphanum = true) :
    Code.isWordChar c = true := by
  simp [Code.isWordChar, letter]

/-- A letter or a digit is written as it is, a capital letter behind an underscore in lowercase. -/
theorem snakeChar_alphanum {c : Char} (letter : c.isAlphanum = true) :
    snakeChar c = [c] ∧ c ≠ '_' ∨ ∃ d, snakeChar c = ['_', d] ∧ d.toUpper = c := by
  have other : c ≠ '_' := by
    rintro rfl
    cases letter
  rcases snakeChar_cases (Code.isWordChar_ascii (isWordChar_of_isAlphanum letter)) other with
    own | ⟨d, written, -, -, read⟩
  · exact .inl ⟨own, other⟩
  · exact .inr ⟨d, written, read⟩

theorem readSnake_flatMap {s : List Char} (letters : ∀ c ∈ s, c.isAlphanum = true) :
    readSnake (s.flatMap snakeChar) = s := by
  induction s with
  | nil => rfl
  | cons c rest ih =>
    obtain ⟨letter, later⟩ := List.forall_mem_cons.mp letters
    rw [List.flatMap_cons]
    rcases snakeChar_alphanum letter with ⟨written, other⟩ | ⟨d, written, read⟩
    · rw [written, List.singleton_append, readSnake, ih later]
      intro d tail bar
      exact absurd bar other
    · rw [written, List.cons_append, List.singleton_append, readSnake, ih later, read]

/-- The first letter of a name is known from its lowercase form if it is a capital one. -/
theorem lowerFirst_capital {c d : Char} (capital : c.isUpper = true) (other : d.isUpper = true)
    (same : lowerFirst [c] = lowerFirst [d]) : c = d := by
  have letter {e : Char} (upper : e.isUpper = true) : lowerFirst [e] = [e.toLower] ∧
      e.toLower.toUpper = e := by
    have ascii := Code.isWordChar_ascii (by simp [Code.isWordChar_eq, upper] : Code.isWordChar e)
    exact ⟨lowerFirst_ascii ascii [], Text.ascii_forall (P := fun e => e.isUpper = true →
      e.toLower.toUpper = e) (by decide +kernel) ascii upper⟩
  obtain ⟨written, read⟩ := letter capital
  obtain ⟨writtenToo, readToo⟩ := letter other
  rw [written, writtenToo, List.cons.injEq] at same
  rw [← read, same.1, readToo]

/-- Names in camel case are told apart in snake case. -/
theorem snakeCase_injective {s t : List Char} (camel : CamelCase s) (other : CamelCase t)
    (same : snakeCase s = snakeCase t) : s = t := by
  obtain ⟨⟨c, first, capital⟩, letters⟩ := camel
  obtain ⟨⟨d, firstToo, capitalToo⟩, lettersToo⟩ := other
  obtain ⟨rest, rfl⟩ := List.head?_eq_some_iff.mp first
  obtain ⟨more, rfl⟩ := List.head?_eq_some_iff.mp firstToo
  obtain ⟨start, later⟩ := List.append_inj same (by simp [lowerFirst])
  have tail : rest = more := by
    rw [← readSnake_flatMap (List.forall_mem_cons.mp letters).2, later,
      readSnake_flatMap (List.forall_mem_cons.mp lettersToo).2]
  rw [lowerFirst_capital capital capitalToo start, tail]

end Identifier

/-! ### Files that run into each other -/

namespace Schema

/-- What a generated file is named by for a service. -/
def ServiceDecl.snakeName (s : ServiceDecl) : String := Text.onString Identifier.snakeCase s.name

/-- Whether a file is named like another one with an underscore and the start of a service of that
one behind it, and has a service that is the rest. -/
def SchemaFile.RunsInto (f : SchemaFile) (s : ServiceDecl) (h : SchemaFile) (t : ServiceDecl) : Prop :=
  ∃ rest : String, Stub.stripExtension h.name = Stub.stripExtension f.name ++ "_" ++ rest ∧
    s.snakeName = rest ++ "_" ++ t.snakeName

theorem SchemaFile.RunsInto.differ {f h : SchemaFile} {s t : ServiceDecl} (into : f.RunsInto s h t) :
    f ≠ h := by
  rintro rfl
  obtain ⟨rest, longer, -⟩ := into
  have lengths := congrArg String.length longer
  simp only [String.length_append] at lengths
  have bar : ("_" : String).length = 1 := by decide
  omega

end Schema

namespace Generator

variable {g : Generator}

/-- The name of the file for a service, up to the ending of the language. -/
def stem (f : SchemaFile) (s : ServiceDecl) : String :=
  Stub.stripExtension f.name ++ "_" ++ s.snakeName

/-- Whether the generated files of services are told apart by their names: no two services of one
file are written alike, none runs into a service of another file, and the name of the support file is
not one of theirs. -/
structure Apart (g : Generator) (files : List SchemaFile) : Prop where
  within : ∀ f ∈ files, (f.services.map (·.snakeName)).Nodup
  across : ∀ f ∈ files, ∀ h ∈ files, ∀ s ∈ f.services, ∀ t ∈ h.services, ¬ f.RunsInto s h t
  support : ∀ f ∈ files, ∀ s ∈ f.services,
    .string (stem f s ++ g.target.fileSuffix) ∉ g.supportNames

theorem servicePart_some {name : String} (filled : name ≠ "") :
    servicePart (some name) = "_" ++ Text.onString Identifier.snakeCase name := by
  unfold servicePart
  split
  next same => exact absurd (Option.some.inj same) filled
  next none => cases none
  next same => rw [Option.some.inj same]

theorem fileNames_perService (each : g.granularity = .perService) {f : SchemaFile}
    (named : ∀ s ∈ f.services, IsIdentifier s.name) :
    g.fileNames f = f.services.map fun s => stem f s ++ g.target.fileSuffix := by
  simp only [fileNames, each]
  refine List.map_congr_left fun s member => ?_
  rw [ending, servicePart_some (named s member).nonEmpty, ← String.append_assoc,
    ← String.append_assoc]
  rfl

/-- Two services have one output name in these ways, and in no other. -/
theorem stem_eq_iff {f h : SchemaFile}
    (differ : Stub.stripExtension f.name ≠ Stub.stripExtension h.name) {s t : ServiceDecl} :
    stem f s = stem h t ↔ f.RunsInto s h t ∨ h.RunsInto t f s := by
  constructor
  · intro same
    have chars : (Stub.stripExtension f.name).toList ++ '_' :: s.snakeName.toList =
        (Stub.stripExtension h.name).toList ++ '_' :: t.snakeName.toList := by
      simpa [stem] using congrArg String.toList same
    rcases Text.append_sep_cases chars (mt (String.toList_injective ·) differ) with
      ⟨rest, longer, word⟩ | ⟨rest, longer, word⟩
    · refine .inl ⟨String.ofList rest, String.toList_injective ?_, String.toList_injective ?_⟩
      · simpa using longer
      · simpa using word
    · refine .inr ⟨String.ofList rest, String.toList_injective ?_, String.toList_injective ?_⟩
      · simpa using longer
      · simpa using word
  · rintro (⟨rest, longer, word⟩ | ⟨rest, longer, word⟩)
    · simp only [stem, longer, word, String.append_assoc]
    · simp only [stem, longer, word, String.append_assoc]

/-- The generated files of schema files have names of their own unless services of one file are
written alike or one runs into a service of another file. -/
theorem nodup_fileNames_iff (each : g.granularity = .perService) {files : List SchemaFile}
    (distinct : (files.map (·.name)).Nodup) (proto : ∀ f ∈ files, Stub.extension <:+ f.name.toList)
    (named : ∀ f ∈ files, ∀ s ∈ f.services, IsIdentifier s.name) :
    (files.flatMap g.fileNames).Nodup ↔
      (∀ f ∈ files, (f.services.map (·.snakeName)).Nodup) ∧
      ∀ f ∈ files, ∀ h ∈ files, ∀ s ∈ f.services, ∀ t ∈ h.services, ¬ f.RunsInto s h t := by
  have own {f : SchemaFile} (member : f ∈ files) := fileNames_perService each (named f member)
  have apart {f h : SchemaFile} (member : f ∈ files) (other : h ∈ files) (differ : f ≠ h) :
      Stub.stripExtension f.name ≠ Stub.stripExtension h.name := fun same =>
    differ (List.inj_on_of_nodup_map distinct member other
      (Stub.stripExtension_injective (proto f member) (proto h other) same))
  rw [List.nodup_flatMap]
  refine and_congr (forall₂_congr fun f member => ?_) ?_
  · rw [own member]
    have whole : (f.services.map fun s => stem f s ++ g.target.fileSuffix) =
        (f.services.map (·.snakeName)).map fun word =>
          Stub.stripExtension f.name ++ "_" ++ word ++ g.target.fileSuffix := by
      simp [stem]
    rw [whole]
    refine List.nodup_map_iff fun word other same => ?_
    exact String.append_right_inj _ |>.mp (String.append_left_inj _ |>.mp same)
  · have disjoint {f h : SchemaFile} (member : f ∈ files) (other : h ∈ files) (differ : f ≠ h) :
        (g.fileNames f).Disjoint (g.fileNames h) ↔
          ∀ s ∈ f.services, ∀ t ∈ h.services, ¬ f.RunsInto s h t ∧ ¬ h.RunsInto t f s := by
      simp only [own member, own other, List.disjoint_left, List.mem_map, not_exists, not_and,
        forall_exists_index, and_imp, forall_apply_eq_imp_iff₂, String.append_left_inj,
        eq_comm (a := stem h _), stem_eq_iff (apart member other differ), not_or]
    constructor
    · intro pairs f member h other s listed t listedToo into
      have symm : Std.Symm (Function.onFun List.Disjoint g.fileNames) :=
        ⟨fun _ _ free name here there => free there here⟩
      have separate := pairs.forall member other into.differ
      exact ((disjoint member other into.differ).mp separate s listed t listedToo).1 into
    · intro free
      refine (List.Nodup.of_map _ distinct).pairwise_of_forall_ne fun f member h other differ => ?_
      refine (disjoint member other differ).mpr fun s listed t listedToo => ?_
      exact ⟨free f member h other s listed t listedToo, free h other f member t listedToo s listed⟩

theorem nodup_supportNames : g.supportNames.Nodup := by
  unfold supportNames
  split
  · exact List.nodup_singleton _
  · exact List.nodup_nil

theorem mem_supportNames (unset : g.options.runtimeOutput.truthy = false) {name : Text.CodePoints}
    (listed : name ∈ g.supportNames) : ∃ file ∈ g.target.support, name = .string file.name := by
  unfold supportNames at listed
  split at listed
  case h_1 shown _ named =>
    obtain rfl := List.mem_singleton.mp listed
    unfold supportName at named
    split at named
    next => cases named
    next file held =>
      rw [if_neg (by simp [unset])] at named
      exact ⟨file, held, (Value.text.inj named).symm⟩
  case h_2 => cases listed

/-- No support file is named like a generated one unless the options name it. -/
theorem supportNames_apart (builtin : g.target ∈ Target.builtins)
    (unset : g.options.runtimeOutput.truthy = false) (stem : String) :
    .string (stem ++ g.target.fileSuffix) ∉ g.supportNames := by
  have all : ∀ target ∈ Target.builtins, ∀ file ∈ target.support,
      ¬ target.fileSuffix.toList <:+ file.name.toList := by decide +kernel
  intro listed
  obtain ⟨file, held, same⟩ := mem_supportNames unset listed
  have name := congrArg String.toList (Text.CodePoints.string.inj same)
  rw [String.toList_append] at name
  exact all _ builtin file held ⟨_, name⟩

/-- Whether the output of a run is one file for each schema file that output is wanted for, named by it
with the suffix of the language in place of the extension, and then the support file, all of them under
different names. -/
structure NamedWhole (g : Generator) (files : List SchemaFile) (result : RunResult) : Prop where
  extension : ∀ f ∈ marked files, f.name = Stub.stripExtension f.name ++ ".proto"
  names : result.files.map (·.name) =
    (marked files).map (fun f => .string (Stub.stripExtension f.name ++ g.target.fileSuffix)) ++
      if g.options.bundleRuntime then
        (g.target.support.map fun file => .string file.name).toList else []
  distinct : (result.files.map (·.name)).Nodup

/-- Where schema files are generated as a whole, files with names of their own stay so. -/
theorem nodup_names_perFile (builtin : g.target ∈ Target.builtins) (whole : g.granularity = .perFile)
    (unset : g.options.runtimeOutput.truthy = false) {files : List SchemaFile}
    (distinct : (files.map (·.name)).Nodup)
    (proto : ∀ f ∈ files, Stub.extension <:+ f.name.toList) :
    ((files.flatMap g.fileNames).map Text.CodePoints.string ++ g.supportNames).Nodup := by
  rw [flatMap_fileNames whole, List.map_map]
  refine List.nodup_append'.mpr ⟨?_, nodup_supportNames, ?_⟩
  · refine List.Nodup.map_on (fun f member h other same => ?_) (List.Nodup.of_map _ distinct)
    have stripped := String.append_left_inj _ |>.mp (Text.CodePoints.string.inj same)
    have name := Stub.stripExtension_injective (proto f member) (proto h other) stripped
    exact List.inj_on_of_nodup_map distinct member other name
  · refine List.disjoint_left.mpr fun name generated support => ?_
    obtain ⟨f, -, rfl⟩ := List.mem_map.mp generated
    exact supportNames_apart builtin unset _ support

/-- The files of a run that generates schema files as a whole are named by them, each in its own way.
A run of a language that comes with the program returns, unless its options put something else where a
text is needed. -/
theorem run_names_whole (builtin : g.target ∈ Target.builtins) (whole : g.granularity = .perFile)
    (unset : g.options.runtimeOutput = .null) {files : List SchemaFile}
    (distinct : (files.map (·.name)).Nodup)
    (proto : ∀ f ∈ files, Stub.extension <:+ f.name.toList) :
    (∀ earlier store d result, (g.run ⟨g.heldTemplate earlier, store⟩ d files).1 = .ok result →
      g.NamedWhole files result) ∧
    (g.template = some g.target.template → g.options.fallbackPackage.UnsetOr Text.IsString →
      ∃ result, g.runBuiltin files = .ok result ∧ g.NamedWhole files result) := by
  have inside {f : SchemaFile} (member : f ∈ marked files) : f ∈ files := List.mem_of_mem_filter member
  have named {earlier : List Call} {store : SupportStore} {d : Disk} {result : RunResult}
      (returned : (g.run ⟨g.heldTemplate earlier, store⟩ d files).1 = .ok result) :
      g.NamedWhole files result := by
    have apart := nodup_names_perFile builtin whole (by rw [unset]; rfl)
      (distinct.sublist (List.filter_sublist.map _)) fun f member => proto f (inside member)
    refine ⟨fun f member => String.toList_injective ?_, ?_, ?_⟩
    · rw [String.toList_append]
      exact (Stub.toList_stripExtension (proto f (inside member))).symm
    · rw [run_names returned, flatMap_fileNames whole, List.map_map, supportNames_unset unset]
      rfl
    · rw [run_names returned]
      exact apart
  refine ⟨fun _ _ _ _ => named, fun own fallback => ?_⟩
  have comes : g.Builtin := ⟨builtin, own⟩
  obtain ⟨result, returned⟩ := comes.runBuiltin_strings fallback (.inl unset) files
  exact ⟨result, returned, named (runBuiltin_eq files ▸ returned)⟩

/-- Swift as it comes. -/
def swiftWhole : Generator where
  target := Target.swift
  options := {}

/-- Files whose names hold the extension, the suffix and the name of the support file. -/
def telescoped : List SchemaFile :=
  ["kalam.proto", "kalam.proto.proto", ".proto", "kalam.klm.swift.proto"].map
    fun name => ⟨name, "", true, [], [], []⟩

theorem run_names_whole_telescoped : ∃ result, swiftWhole.runBuiltin telescoped = .ok result ∧
    result.files.map (·.name) = ["kalam.klm.swift", "kalam.proto.klm.swift", ".klm.swift",
      "kalam.klm.swift.klm.swift", "kalam.swift"].map .string ∧
    (result.files.map (·.name)).Nodup := by
  have builtin : swiftWhole.target ∈ Target.builtins := .tail _ (.head _)
  have distinct : (telescoped.map (·.name)).Nodup := by decide +kernel
  obtain ⟨-, returns⟩ := run_names_whole builtin rfl rfl distinct (by decide +kernel)
  obtain ⟨result, returned, named⟩ := returns rfl (.inl rfl)
  exact ⟨result, returned, named.names.trans (by decide +kernel), named.distinct⟩

/-- Services in camel case are told apart if no file is named like another one with an underscore and
more behind it. -/
theorem Apart.of_camelCase (builtin : g.target ∈ Target.builtins)
    (unset : g.options.runtimeOutput.truthy = false) {files : List SchemaFile}
    (distinct : ∀ f ∈ files, (f.services.map (·.name)).Nodup)
    (camel : ∀ f ∈ files, ∀ s ∈ f.services, Identifier.CamelCase s.name.toList)
    (free : ∀ f ∈ files, ∀ h ∈ files,
      ¬ (Stub.stripExtension f.name ++ "_").toList <+: (Stub.stripExtension h.name).toList) :
    g.Apart files where
  within := by
    intro f member
    refine List.Nodup.map_on (fun s listed t listedToo same => ?_) (List.Nodup.of_map _ (distinct f member))
    have written := congrArg String.toList same
    simp only [ServiceDecl.snakeName, Text.toList_onString] at written
    have names := Identifier.snakeCase_injective (camel f member s listed) (camel f member t listedToo)
      written
    exact List.inj_on_of_nodup_map (distinct f member) listed listedToo (String.toList_injective names)
  across := by
    rintro f member h other s - t - ⟨rest, longer, -⟩
    exact free f member h other ⟨rest.toList, by rw [longer, ← String.toList_append]⟩
  support := fun _ _ _ _ => supportNames_apart builtin unset _

/-- The files of a run that generates one for each service have names of their own exactly if the
services of the marked schema files are told apart by the names that they are given. -/
theorem run_names_nodup_iff (each : g.granularity = .perService) {earlier : List Call}
    {store : SupportStore} {d : Disk} {files : List SchemaFile} {result : RunResult}
    (distinct : (files.map (·.name)).Nodup) (proto : ∀ f ∈ files, Stub.extension <:+ f.name.toList)
    (named : ∀ f ∈ files, ∀ s ∈ f.services, IsIdentifier s.name)
    (returned : (g.run ⟨g.heldTemplate earlier, store⟩ d files).1 = .ok result) :
    (result.files.map (·.name)).Nodup ↔ g.Apart (marked files) := by
  have inside {f : SchemaFile} (member : f ∈ marked files) : f ∈ files := List.mem_of_mem_filter member
  have names : ((marked files).map (·.name)).Nodup := distinct.sublist (List.filter_sublist.map _)
  have generated := nodup_fileNames_iff each names (fun f member => proto f (inside member))
    fun f member => named f (inside member)
  have injective : Function.Injective Text.CodePoints.string := fun _ _ same => by cases same; rfl
  have apart : ((marked files).flatMap g.fileNames |>.map Text.CodePoints.string).Disjoint
      g.supportNames ↔ ∀ f ∈ marked files, ∀ s ∈ f.services,
        .string (stem f s ++ g.target.fileSuffix) ∉ g.supportNames := by
    simp only [List.disjoint_left, List.mem_map, List.mem_flatMap, forall_exists_index, and_imp]
    constructor
    · intro free f member s listed
      refine free _ f member ?_ rfl
      rw [fileNames_perService each (named f (inside member))]
      exact List.mem_map_of_mem listed
    · rintro free _ name f member listed rfl
      rw [fileNames_perService each (named f (inside member))] at listed
      obtain ⟨s, service, rfl⟩ := List.mem_map.mp listed
      exact free f member s service
  rw [run_names returned, List.nodup_append', List.nodup_map_iff injective, generated, apart]
  constructor
  · rintro ⟨⟨within, across⟩, -, support⟩
    exact ⟨within, across, support⟩
  · intro separate
    exact ⟨⟨separate.within, separate.across⟩, nodup_supportNames, separate.support⟩

/-- Kotlin, with a file for each service. -/
def kotlinServices : Generator where
  target := Target.kotlin
  options := { granularity := some .perService }

theorem kotlinServices_builtin : kotlinServices.Builtin := ⟨.head _, rfl⟩

/-- A marked file with services that have no methods. -/
def fileOf (name : String) (services : List String) : SchemaFile :=
  ⟨name, "", true, [], [], services.map fun s => ⟨s, s, []⟩⟩

/-- Two files that end alike, each with a service of the same name. -/
def pair : List SchemaFile := [fileOf "svc.proto" ["GetUser", "PutUser"], fileOf "a_svc.proto" ["GetUser"]]

theorem run_names_nodup_pair : ∃ result,
    (kotlinServices.run ⟨kotlinServices.heldTemplate [], SupportStore.builtin⟩
      SupportStore.builtinDisk pair).1 = .ok result ∧ (result.files.map (·.name)).Nodup := by
  obtain ⟨result, returned⟩ := kotlinServices_builtin.runBuiltin_strings (.inl rfl) (.inl rfl) pair
  rw [runBuiltin_eq] at returned
  have apart : kotlinServices.Apart (marked pair) :=
    .of_camelCase kotlinServices_builtin.target rfl (by decide +kernel) (by decide +kernel)
      (by decide +kernel)
  exact ⟨result, returned, (run_names_nodup_iff rfl (by decide +kernel) (by decide +kernel)
    (by decide +kernel) returned).mpr apart⟩

/-- Two services of one file that are written alike. -/
def alike : List SchemaFile := [fileOf "user.proto" ["GetUser", "get_user"]]

/-- A service that runs into one of another file. -/
def running : List SchemaFile := [fileOf "a.proto" ["BarFoo"], fileOf "a_bar.proto" ["Foo"]]

/-- Whether files and services that are told apart by their names give two files of one name. -/
structure Collides (files : List SchemaFile) : Prop where
  distinct : (files.map (·.name)).Nodup
  proto : ∀ f ∈ files, Stub.extension <:+ f.name.toList
  services : ∀ f ∈ files, (f.services.map (·.name)).Nodup ∧ ∀ s ∈ f.services, IsIdentifier s.name
  repeated : ∃ result, kotlinServices.runBuiltin files = .ok result ∧
    ¬ (result.files.map (·.name)).Nodup

/-- One of two files is lost if services of one file are written alike, and if a service runs into one
of another file. -/
theorem run_names_collide : Collides alike ∧ Collides running := by
  have repeats {files : List SchemaFile} (twice :
      ¬ (((marked files).flatMap kotlinServices.fileNames).map Text.CodePoints.string ++
        kotlinServices.supportNames).Nodup) :
      ∃ result, kotlinServices.runBuiltin files = .ok result ∧
        ¬ (result.files.map (·.name)).Nodup := by
    obtain ⟨result, returned⟩ :=
      kotlinServices_builtin.runBuiltin_strings (.inl rfl) (.inl rfl) files
    exact ⟨result, returned, runBuiltin_names returned ▸ twice⟩
  constructor
  · exact ⟨by decide +kernel, by decide +kernel, by decide +kernel, repeats (by decide +kernel)⟩
  · exact ⟨by decide +kernel, by decide +kernel, by decide +kernel, repeats (by decide +kernel)⟩

end Generator

end RpcBindings
