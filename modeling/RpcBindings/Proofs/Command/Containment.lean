import RpcBindings.Proofs.Command.Writing
import RpcBindings.Proofs.Disk.Below
import RpcBindings.Proofs.Schema.Services
import RpcBindings.Proofs.Stub.Plain

/-! Where a run puts its files. A generated file lies in the directory that its schema file has, seen
from the output directory, whatever service it is named after. So all files of a run stay below the
output directory if the directories of the schema files stay there and the name of the support file
leads there; a schema file whose name leads out of the directory takes its output with it. -/
namespace RpcBindings

open Schema

namespace Path

theorem stays_stripExtension {name : String} : Stays (Stub.stripExtension name) ↔ Stays name := by
  rw [Stub.stripExtension]
  split
  next ends =>
    obtain ⟨front, whole⟩ := List.isSuffixOf_iff_suffix.mp ends
    have cut : name.toList.take (name.toList.length - Stub.extension.length) = front := by
      rw [← whole, List.length_append, Nat.add_sub_cancel, List.take_left]
    have split : name = String.ofList front ++ String.ofList Stub.extension := by
      rw [← String.ofList_append, whole, String.ofList_toList]
    have free : '/' ∉ (String.ofList Stub.extension).toList := by decide +kernel
    rw [cut, split, stays_append free]
  next => exact Iff.rfl

end Path

/-- No checked name has a slash in it. -/
theorem Schema.slash_of_checkName {name : String} (named : checkName name = .ok ()) :
    '/' ∉ name.toList := by
  intro slash
  cases (isIdentifier_of_checkName named).chars '/' slash

/-- A generated file leads below any directory that it is seen from exactly if the directory of the
schema file stays there. -/
theorem Generator.inside_iff_stays {g : Generator} (builtin : g.target ∈ Target.builtins)
    {f : SchemaFile} (services : f.ServicesNamed) {name : String} (listed : name ∈ g.fileNames f) :
    (Path.ofString name).Inside ↔ Path.Stays f.name := by
  obtain ⟨service, free, rfl⟩ : ∃ service : Option String, (∀ name ∈ service, '/' ∉ name.toList) ∧
      name = Stub.stripExtension f.name ++ g.ending service := by
    unfold fileNames at listed
    dsimp only at listed
    split at listed
    · exact ⟨none, nofun, List.mem_singleton.mp listed⟩
    · obtain ⟨s, member, rfl⟩ := List.mem_map.mp listed
      refine ⟨some s.name, fun name own => ?_, rfl⟩
      cases own
      exact slash_of_checkName (services s member)
  rw [Path.inside_append_iff (isEnding_ending builtin free), Path.stays_stripExtension]

namespace Command

variable {arguments : List String} {d : Disk} {stack : Stack} {o : Output}

/-- Whether all files of an output lead below any directory that they are seen from. -/
def Output.Contained (o : Output) : Prop :=
  ∀ name, .string name ∈ o.files.map (·.name) → (Path.ofString name).Inside

/-- An output is contained exactly if the directories of the schema files that it has files for stay
where they are seen from and the support file does. -/
theorem Output.From.contained_iff {look : Path → Disk.Sight} {g : Generator} {files : List SchemaFile}
    (source : o.From look stack g files) :
    o.Contained ↔ (∀ f ∈ marked files, g.fileNames f ≠ [] → Path.Stays f.name) ∧
      ∀ name, .string name ∈ g.supportNames → (Path.ofString name).Inside := by
  obtain ⟨language, options, -, -, created⟩ := source.generator
  obtain ⟨descriptors, names, -, -, loaded⟩ := source.schema
  have builtin := (Catalog.builtin_of_createWith created).target
  have each {f : SchemaFile} (member : f ∈ marked files) {name : String}
      (listed : name ∈ g.fileNames f) :=
    g.inside_iff_stays builtin (loadSet_services loaded f (List.mem_of_mem_filter member)) listed
  have mem (name : String) : .string name ∈ o.files.map (·.name) ↔
      (∃ f ∈ marked files, name ∈ g.fileNames f) ∨ .string name ∈ g.supportNames := by
    rw [source.names, List.mem_append, List.mem_map]
    simp [List.mem_flatMap]
  constructor
  · intro contained
    refine ⟨fun f member some => ?_, fun name support => contained name ((mem name).mpr (.inr support))⟩
    obtain ⟨name, listed⟩ := List.exists_mem_of_ne_nil _ some
    exact (each member listed).mp (contained name ((mem name).mpr (.inl ⟨f, member, listed⟩)))
  · rintro ⟨schema, support⟩ name listed
    rcases (mem name).mp listed with ⟨f, member, own⟩ | last
    · exact (each member own).mpr (schema f member (List.ne_nil_of_mem own))
    · exact support name last

/-- What a contained output writes, it writes under paths inside. -/
theorem Output.Contained.inside (contained : o.Contained) {entry : Path × ByteArray}
    (listed : entry ∈ o.writes) :
    ∃ p : Path, p.Inside ∧ entry.1 = o.directory.join p := by
  unfold Output.writes at listed
  split at listed
  · cases listed
  · obtain ⟨file, member, written⟩ := List.mem_filterMap.mp listed
    split at written
    next name named =>
      cases written
      exact ⟨_, contained name (named ▸ List.mem_map_of_mem (f := (·.name)) member), rfl⟩
    next => cases written

/-- What a contained output writes lies below the output directory. -/
theorem Output.Contained.below (contained : o.Contained) {entry : Path × ByteArray}
    (listed : entry ∈ o.writes) :
    Disk.Below (d.destination o.directory) (d.destination entry.1) := by
  obtain ⟨p, inside, path⟩ := contained.inside listed
  exact path ▸ Disk.below_of_inside inside

/-- A run with a contained output changes what lies below the output directory; above, it makes at most
the directories on the way there. -/
theorem Output.Contained.frame (contained : o.Contained)
    (completes : Completes arguments d.look stack o)
    (place : List String) :
    (run arguments d stack).2.node? place = d.node? place ∨
      place ∈ d.stations o.directory ∧ (run arguments d stack).2.node? place = some .directory ∨
      Disk.Below (d.destination o.directory) place := by
  rw [run_of_completes completes]
  rcases d.storeAll_cases o.writes place with same | ⟨now, entry, listed, station⟩ |
    ⟨entry, listed, rfl⟩
  · exact .inl same
  · obtain ⟨p, inside, path⟩ := contained.inside listed
    rw [path] at station
    rcases Disk.station_of_inside inside station with way | below
    · exact .inr (.inl ⟨way, now⟩)
    · exact .inr (.inr below)
  · exact .inr (.inr (contained.below listed))

/-! ### Runs and their output directories -/

/-- The files that a run writes lie below its output directory, whatever directory that is, exactly if
the names of the schema files do not lead out of the directory that they are seen from, and the name of
the support file does not. Then nothing else changes but directories on the way. -/
theorem run_contained (completes : Completes arguments d.look stack o) :
    ∃ g files, o.From d.look stack g files ∧
      ((∀ (e : Disk) directory name, .string name ∈ o.files.map (·.name) →
          Disk.Below (e.destination directory) (e.destination (directory.join (Path.ofString name)))) ↔
        (∀ f ∈ marked files, g.fileNames f ≠ [] → Path.Stays f.name) ∧
          ∀ name, .string name ∈ g.supportNames → (Path.ofString name).Inside) ∧
      ((∀ f ∈ marked files, g.fileNames f ≠ [] → Path.Stays f.name) →
        (∀ name, .string name ∈ g.supportNames → (Path.ofString name).Inside) →
        (∀ entry ∈ o.writes, Disk.Below (d.destination o.directory) (d.destination entry.1)) ∧
          ∀ place, (run arguments d stack).2.node? place = d.node? place ∨
            place ∈ d.stations o.directory ∧ (run arguments d stack).2.node? place = some .directory ∨
            Disk.Below (d.destination o.directory) place) := by
  obtain ⟨g, files, source⟩ := completes.exists_from
  refine ⟨g, files, source, ?_, fun schema support => ?_⟩
  · rw [← source.contained_iff]
    constructor
    · intro below name listed
      exact Disk.inside_iff.mpr fun e directory => below e directory name listed
    · intro contained e directory name listed
      exact Disk.below_of_inside (contained name listed)
  · have contained := source.contained_iff.mpr ⟨schema, support⟩
    exact ⟨fun entry listed => contained.below listed, contained.frame completes⟩

theorem ofString_out : Path.ofString "out" = ⟨"", ["out"]⟩ := by decide +kernel

/-- The output for a schema file in a directory lies in that directory below the output directory. -/
theorem run_contained_nested :
    ∃ o, Completes ["a.pb", "-l", "kotlin", "-o", "out"] (workplace "sub/a.proto" []).look .usual o ∧
      (workplace "sub/a.proto" []).destination o.directory = ["work", "out"] ∧
      o.writes.map (fun entry => (workplace "sub/a.proto" []).destination entry.1) =
        [["work", "out", "sub", "a.klm.kt"]] ∧
      ∀ entry ∈ o.writes, Disk.Below ((workplace "sub/a.proto" []).destination o.directory)
        ((workplace "sub/a.proto" []).destination entry.1) := by
  have parsed : ∃ descriptors ∈ Wire.readFileSet (bareSet "sub/a.proto").data.toList,
      ∃ files ∈ (loadSet descriptors none .usual).toOption,
        (marked files).map (·.name) = ["sub/a.proto"] := by
    decide +kernel
  have stubName : Stub.stripExtension "sub/a.proto" ++ Target.kotlin.fileSuffix = "sub/a.klm.kt" := by
    decide +kernel
  obtain ⟨o, stub, completes, placed, strings, writes⟩ := kotlin_completes [] parsed stubName
  have contained : o.Contained := by
    intro name listed
    obtain rfl : name = "sub/a.klm.kt" := by simpa [strings] using listed
    exact ⟨by decide +kernel, by decide +kernel, by decide +kernel⟩
  have path : (Path.ofString "out").join (Path.ofString "sub/a.klm.kt") =
      ⟨"", ["out", "sub", "a.klm.kt"]⟩ := by
    decide +kernel
  obtain ⟨g, files, -, stays, below⟩ := run_contained completes
  obtain ⟨schema, last⟩ := stays.mp fun e directory name listed =>
    Disk.below_of_inside (contained name listed)
  refine ⟨o, completes, ?_, ?_, (below schema last).1⟩
  · rw [placed, ofString_out]
    rfl
  · rw [writes, path]
    rfl

/-- A working directory with an output directory and the set of a schema file beside the former. -/
def outbox : Disk := workplace "../evil.proto" [(["work", "out"], .directory)]

theorem outbox_run : ∃ o stub, Completes ["a.pb", "-l", "kotlin", "-o", "out"] outbox.look .usual o ∧
    run ["a.pb", "-l", "kotlin", "-o", "out"] outbox .usual =
      (.ok { exitCode := 0, lines := o.lines, warnings := o.warnings },
        outbox.put ["work", "evil.klm.kt"] (.file stub)) := by
  have parsed : ∃ descriptors ∈ Wire.readFileSet (bareSet "../evil.proto").data.toList,
      ∃ files ∈ (loadSet descriptors none .usual).toOption,
        (marked files).map (·.name) = ["../evil.proto"] := by
    decide +kernel
  have stubName : Stub.stripExtension "../evil.proto" ++ Target.kotlin.fileSuffix = "../evil.klm.kt" := by
    decide +kernel
  have path : (Path.ofString "out").join (Path.ofString "../evil.klm.kt") =
      ⟨"", ["out", "..", "evil.klm.kt"]⟩ := by
    decide +kernel
  obtain ⟨o, stub, completes, -, named, written⟩ :=
    kotlin_completes [(["work", "out"], .directory)] parsed stubName
  rw [path] at written
  have above : outbox.locate ⟨"", ["out", ".."]⟩ = .ok ["work"] := by
    rw [Disk.locate_eq_follow _ (by decide +kernel) (by decide +kernel)]
    rfl
  have located : outbox.locate ⟨"", ["out", "..", "evil.klm.kt"]⟩ = .ok ["work", "evil.klm.kt"] := by
    rw [Disk.locate_eq_follow _ (by decide +kernel) (by decide +kernel)]
    rfl
  have absent : outbox.node? ["work", "evil.klm.kt"] = none := rfl
  have there : outbox.isDirectory (Path.parent ⟨"", ["out", "..", "evil.klm.kt"]⟩) = true :=
    Disk.isDirectory_iff.mpr ⟨_, above, rfl⟩
  have stored := Disk.store_free there located rfl (by simp [absent]) stub
  have course : run ["a.pb", "-l", "kotlin", "-o", "out"] outbox .usual = _ := run_of_completes completes
  refine ⟨o, stub, completes, ?_⟩
  rw [course, written, Disk.storeAll, stored]
  dsimp only
  rw [Disk.storeAll, Output.report_stored (Output.unnameable?_of_names named)]

/-- A run that succeeds may leave output beside its output directory. -/
theorem output_escapes : ∃ report content,
    (run ["a.pb", "-l", "kotlin", "-o", "out"] outbox .usual).1 = .ok report ∧ report.exitCode = 0 ∧
    outbox.destination (Path.ofString "out") = ["work", "out"] ∧
    outbox.node? ["work", "evil.klm.kt"] = none ∧
    (run ["a.pb", "-l", "kotlin", "-o", "out"] outbox .usual).2.node? ["work", "evil.klm.kt"] =
      some (.file content) ∧
    ¬ Disk.Below ["work", "out"] ["work", "evil.klm.kt"] := by
  obtain ⟨o, stub, -, course⟩ := outbox_run
  have absent : outbox.node? ["work", "evil.klm.kt"] = none := rfl
  have left : (outbox.put ["work", "evil.klm.kt"] (.file stub)).node? ["work", "evil.klm.kt"] =
      some (.file stub) := by rw [Disk.node?_put _ (by decide), if_pos rfl]
  have outside : ¬ Disk.Below ["work", "out"] ["work", "evil.klm.kt"] := by
    rintro ⟨names, -, split⟩
    exact absurd (List.cons.inj (List.cons.inj split).2).1 (by decide)
  have directory : outbox.destination (Path.ofString "out") = ["work", "out"] := by
    rw [ofString_out]
    rfl
  rw [course]
  exact ⟨_, stub, rfl, rfl, directory, absent, left, outside⟩

end Command

end RpcBindings
