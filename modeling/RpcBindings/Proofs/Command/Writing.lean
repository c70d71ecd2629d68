import RpcBindings.Proofs.Command.Completion
import RpcBindings.Proofs.Disk.Growth

/-! What a run does to the disk. A run that is spared from writing leaves the disk as it is. Any other
run stores its files one after the other: if it succeeds all of them are there and nothing else has
changed; if a file is refused, the files before it and the directories made for it stay. -/
namespace RpcBindings.Command

open Outcome Schema

variable {arguments : List String} {d : Disk} {stack : Stack} {o : Output}

theorem run_of_completes (completes : Completes arguments d.look stack o) :
    run arguments d stack = (o.report (d.storeAll o.writes).1, (d.storeAll o.writes).2) := by
  rw [run, plan_output_iff.mpr completes]

/-! ### Writing the files -/

namespace Output

/-- Whether a file is written under a path: its name is a string, and the path is that of a directory
joined with this name. -/
def Written (directory : Path) (file : OutputFile) (entry : Path × ByteArray) : Prop :=
  ∃ name, file.name = .string name ∧ entry = (directory.join (Path.ofString name), file.content)

/-- If every file can be named they are all written, in their order. -/
theorem writes_of_nameable (wet : o.arguments.dryRun = false) (nameable : o.unnameable? = none) :
    List.Forall₂ (Written o.directory) o.files o.writes := by
  simp only [unnameable?, wet, Bool.false_eq_true, if_false, List.findSome?_eq_none_iff] at nameable
  simp only [writes, wet, Bool.false_eq_true, if_false]
  generalize o.files = files at nameable
  induction files with
  | nil => exact .nil
  | cons file files ih =>
    have rest := ih fun other member => nameable other (List.mem_cons_of_mem file member)
    have first := nameable file List.mem_cons_self
    cases named : file.name with
    | string name =>
      simp only [List.filterMap_cons, named]
      exact .cons ⟨name, named, rfl⟩ rest
    | broken codes => simp [named] at first

theorem unnameable?_of_names {names : List String} (named : o.files.map (·.name) = names.map .string) :
    o.unnameable? = none := by
  rw [unnameable?]
  split
  · rfl
  · refine List.findSome?_eq_none_iff.mpr fun file member => ?_
    have listed : file.name ∈ names.map Text.CodePoints.string :=
      named ▸ List.mem_map_of_mem (f := (·.name)) member
    obtain ⟨name, -, same⟩ := List.mem_map.mp listed
    simp only [← same]

/-- The paths that are written are those of the files by their names. -/
theorem paths_of_names {names : List String} (wet : o.arguments.dryRun = false)
    (named : o.files.map (·.name) = names.map .string) :
    o.writes.map (·.1) = names.map fun name => o.directory.join (Path.ofString name) := by
  have written := writes_of_nameable wet (unnameable?_of_names named)
  refine map_eq_map_iff_forall₂.mpr
    (forall₂_trans (fun entry file name here own => ?_) written.flip (map_eq_map_iff_forall₂.mp named))
  obtain ⟨_, same, rfl⟩ := here
  rw [Text.CodePoints.string.inj (own.symm.trans same)]

theorem report_stored (nameable : o.unnameable? = none) :
    o.report (.ok ()) = .ok { exitCode := 0, lines := o.lines, warnings := o.warnings } := by
  simp only [Output.report, nameable]

theorem report_refused {fault : DiskFault} (other : fault.error ≠ .nulInPath) :
    o.report (.error fault) = .ok ((RunFailure.unwritable fault).report o.warnings) := by
  have shown : o.report (.error fault) =
      (diskFailure fault (.unwritable fault)).report o.warnings := rfl
  rw [shown, diskFailure, if_neg other]
  rfl

/-- A report on writing says why a file was refused, or that all is stored and had names. -/
theorem report_cases {written : Except DiskFault Unit} {report : Report}
    (reported : o.report written = .ok report) :
    (∃ fault, written = .error fault ∧ report = (RunFailure.unwritable fault).report o.warnings) ∨
      written = .ok () ∧ o.unnameable? = none ∧ report.exitCode = 0 := by
  cases written with
  | error fault =>
    by_cases nul : fault.error = .nulInPath
    · have shown : o.report (.error fault) =
          (diskFailure fault (.unwritable fault)).report o.warnings := rfl
      rw [shown, diskFailure, if_pos nul] at reported
      cases reported
    · rw [report_refused nul] at reported
      cases reported
      exact .inl ⟨fault, rfl, rfl⟩
  | ok done =>
    cases nameable : o.unnameable? with
    | none =>
      rw [report_stored nameable] at reported
      cases reported
      exact .inr ⟨rfl, rfl, rfl⟩
    | some fault =>
      simp only [Output.report, nameable] at reported
      cases reported

end Output

/-! ### The disk after a run -/

theorem Spared.disk (spared : Spared arguments d.look stack) : (run arguments d stack).2 = d := by
  rcases planned : plan arguments d.look stack with cause | (report | o)
  · rw [run, planned]
  · rw [run, planned]
  · have completes := plan_output_iff.mp planned
    have nothing : o.writes = [] := if_pos (spared.dry completes)
    rw [run_of_completes completes, nothing, Disk.storeAll]

/-- A run that is asked for an output and succeeds has come to the output. -/
theorem completes_of_success {a : Arguments} {report : Report}
    (read : Arguments.read arguments = .ok a) (noList : a.listLanguages = false)
    (noInfo : (a.languageInfo.map Operand.content).getD "" = "")
    (done : (run arguments d stack).1 = .ok report) (success : report.exitCode = 0) :
    ∃ o, o.arguments = a ∧ Completes arguments d.look stack o := by
  rcases a.planOutput_cases d.look stack with ⟨-, failure⟩ | ⟨o, rfl, complete, -⟩
  · have asked : plan arguments d.look stack = a.planOutput d.look stack := by
      rw [plan, read]
      exact Arguments.plan_of_asked noList noInfo
    rw [run, asked] at done
    cases planned : a.planOutput d.look stack with
    | error cause => rw [planned] at done; cases done
    | ok plan =>
      obtain ⟨finished, rfl, code⟩ := failure plan planned
      rw [planned] at done
      cases done
      cases code.symm.trans success
  · exact ⟨o, rfl, complete, read, noList, noInfo⟩

/-! ### A run on a small disk -/

/-- The descriptor set of a schema file that has nothing but its name, a short one. -/
def bareSet (name : String) : ByteArray :=
  ⟨#[10, .ofNat (name.utf8ByteSize + 2), 10, .ofNat name.utf8ByteSize] ++ name.toUTF8.data⟩

/-- A working directory with the set of a schema file and other things in it. -/
def workplace (name : String) (others : List (List String × Node)) : Disk where
  working := ["work"]
  entries := [(["work"], .directory), (["work", "a.pb"], .file (bareSet name))] ++ others

theorem workplace_look (name : String) (others : List (List String × Node)) :
    (workplace name others).look (Path.ofString "a.pb") = .ok (bareSet name) := by
  have path : Path.ofString "a.pb" = ⟨"", ["a.pb"]⟩ := by decide +kernel
  rw [path, Disk.look, Disk.find, Disk.locate_bare rfl (by decide) (by decide) (by decide +kernel)]
  rfl

/-- Output for such a set is the file for the schema file and the support file, if there is one. -/
theorem bareSet_completes {name language directory : String} {target : Target}
    (others : List (List String × Node))
    (read : Arguments.read arguments =
      .ok { descriptorSet := some "a.pb", language := .text language, output := .text directory })
    (parsed : ∃ descriptors ∈ Wire.readFileSet (bareSet name).data.toList,
      ∃ files ∈ (loadSet descriptors none stack).toOption, (marked files).map (·.name) = [name])
    (lower : Catalog.key language = language)
    (registered : Catalog.builtin.targets.lookup language = some target) :
    ∃ o names, Completes arguments (workplace name others).look stack o ∧
      o.directory = Path.ofString directory ∧ names = (Stub.stripExtension name ++ target.fileSuffix) ::
        (target.support.map (·.name)).toList ∧
      o.files.map (·.name) = names.map .string ∧
      o.writes.map (·.1) =
        names.map fun name => (Path.ofString directory).join (Path.ofString name) := by
  obtain ⟨descriptors, decoded, parsed⟩ := parsed
  obtain ⟨files, loaded, wanted⟩ := ok_of_toOption parsed
  have resolved : Catalog.builtin.resolve language = .ok (language, target) :=
    Catalog.resolve_ok_iff.mpr ⟨by rw [Catalog.primary?, lower, registered]; rfl, registered⟩
  obtain ⟨o, completes, wet, placed, named⟩ := completes_of_named read (by decide)
    (workplace_look name others) decoded resolved loaded
  have strings : o.files.map (·.name) = ((Stub.stripExtension name ++ target.fileSuffix) ::
      (target.support.map (·.name)).toList).map .string := by
    rw [named, wanted]
    cases target.support <;> rfl
  exact ⟨o, _, completes, placed, rfl, strings, placed ▸ Output.paths_of_names wet strings⟩

theorem kotlin_read : Arguments.read ["a.pb", "-l", "kotlin", "-o", "out"] =
    .ok { descriptorSet := some "a.pb", language := .text "kotlin", output := .text "out" } := by
  decide +kernel

/-- Kotlin output for a schema file is a stub, here in a directory inside the working directory. -/
theorem kotlin_completes {name stubName : String} (others : List (List String × Node))
    (parsed : ∃ descriptors ∈ Wire.readFileSet (bareSet name).data.toList,
      ∃ files ∈ (loadSet descriptors none .usual).toOption, (marked files).map (·.name) = [name])
    (named : Stub.stripExtension name ++ Target.kotlin.fileSuffix = stubName) :
    ∃ o stub, Completes ["a.pb", "-l", "kotlin", "-o", "out"] (workplace name others).look .usual o ∧
      o.directory = Path.ofString "out" ∧ o.files.map (·.name) = [stubName].map .string ∧
      o.writes = [((Path.ofString "out").join (Path.ofString stubName), stub)] := by
  have registered : Catalog.builtin.targets.lookup "kotlin" = some Target.kotlin := rfl
  obtain ⟨o, names, completes, placed, same, strings, paths⟩ :=
    bareSet_completes others kotlin_read parsed (by decide +kernel) registered
  obtain rfl : names = [stubName] := same.trans (congrArg (· :: []) named)
  obtain ⟨⟨_, stub⟩, rest, written, rfl, nothing⟩ := List.map_eq_cons_iff.mp paths
  cases List.map_eq_nil_iff.mp nothing
  exact ⟨o, stub, completes, placed, strings, written⟩

/-- Swift output for a schema file is a stub and the support file, whatever else is there. -/
theorem swift_completes (others : List (List String × Node)) :
    ∃ o stub support, Completes ["a.pb", "-l", "swift"] (workplace "a.proto" others).look .usual o ∧
      o.files.map (·.name) = ["a.klm.swift", "kalam.swift"].map .string ∧
      o.writes = [(⟨"", ["a.klm.swift"]⟩, stub), (⟨"", ["kalam.swift"]⟩, support)] := by
  have read : Arguments.read ["a.pb", "-l", "swift"] =
      .ok { descriptorSet := some "a.pb", language := .text "swift", output := .text "." } := by
    decide +kernel
  have parsed : ∃ descriptors ∈ Wire.readFileSet (bareSet "a.proto").data.toList,
      ∃ files ∈ (loadSet descriptors none .usual).toOption,
        (marked files).map (·.name) = ["a.proto"] := by
    decide +kernel
  have registered : Catalog.builtin.targets.lookup "swift" = some Target.swift := rfl
  obtain ⟨o, names, completes, -, same, named, paths⟩ :=
    bareSet_completes others read parsed (by decide +kernel) registered
  have names_eq : names = ["a.klm.swift", "kalam.swift"] := same.trans (by decide +kernel)
  subst names_eq
  have paths : o.writes.map (·.1) = [⟨"", ["a.klm.swift"]⟩, ⟨"", ["kalam.swift"]⟩] :=
    paths.trans (by decide +kernel)
  obtain ⟨⟨_, stub⟩, rest, written, rfl, others⟩ := List.map_eq_cons_iff.mp paths
  obtain ⟨⟨_, support⟩, more, rfl, rfl, nothing⟩ := List.map_eq_cons_iff.mp others
  cases List.map_eq_nil_iff.mp nothing
  exact ⟨o, stub, support, completes, named, written⟩

/-- The stub is stored before the support file. -/
theorem swift_stored {others : List (List String × Node)} {stub support : ByteArray}
    (absent : (workplace "a.proto" others).node? ["work", "a.klm.swift"] = none) :
    (workplace "a.proto" others).storeAll
        [(⟨"", ["a.klm.swift"]⟩, stub), (⟨"", ["kalam.swift"]⟩, support)] =
      ((workplace "a.proto" others).put ["work", "a.klm.swift"] (.file stub)).storeAll
        [(⟨"", ["kalam.swift"]⟩, support)] := by
  have there : (workplace "a.proto" others).node? ["work"] = some .directory := rfl
  have stored := Disk.store_bare there (by decide) (by decide) (by decide +kernel) absent stub
  rw [Disk.storeAll, stored]
  rfl

/-! ### Runs that write -/

/-- A run is spared or comes to an output that it is to write. If it is spared it leaves the disk as it
is. If it succeeds in writing, it has written every file of its output under the directory that its
arguments give, joined with the name of the file, after making the directories above it, and has changed
nothing else; of two files at one place the later one is there. No run succeeds with a name that holds a
surrogate, be it one that stands for a byte, as there are no such names on a disk. -/
theorem run_disk (arguments : List String) (d : Disk) (stack : Stack) :
    (Spared arguments d.look stack ∨
        ∃ o, Completes arguments d.look stack o ∧ o.arguments.dryRun = false) ∧
      (Spared arguments d.look stack → (run arguments d stack).2 = d) ∧
      ∀ a report, Arguments.read arguments = .ok a → a.listLanguages = false →
        (a.languageInfo.map Operand.content).getD "" = "" → a.dryRun = false →
        (run arguments d stack).1 = .ok report → report.exitCode = 0 →
        ∃ directory o entries, a.output = .text directory ∧ o.arguments = a ∧
          Completes arguments d.look stack o ∧
          List.Forall₂ (Output.Written (Path.ofString directory)) o.files entries ∧
          d.Grown (d.directoriesOf entries) (d.filesOf entries) (run arguments d stack).2 := by
  refine ⟨spared_or_completes arguments d.look stack, Spared.disk, ?_⟩
  intro a report read noList noInfo wet done success
  obtain ⟨o, rfl, completes⟩ := completes_of_success read noList noInfo done success
  obtain ⟨directory, given, placed⟩ := Arguments.directory_ok_iff.mp completes.directory
  have course := run_of_completes completes
  rw [course] at done
  rcases Output.report_cases done with ⟨fault, -, rfl⟩ | ⟨stored, nameable, -⟩
  · cases success
  · refine ⟨directory, o, o.writes, given, rfl, completes, ?_, ?_⟩
    · exact placed ▸ Output.writes_of_nameable wet nameable
    · rw [course]
      exact Disk.storeAll_ok (Prod.ext stored rfl)

/-- A dry run changes nothing. The same run that is not dry makes the output directory and writes the
stub there, and puts nothing beside the descriptor set. -/
theorem run_disk_bareSet :
    (run ["a.pb", "-l", "kotlin", "-o", "out", "--dry-run"] (workplace "a.proto" []) .usual).2 =
      workplace "a.proto" [] ∧
    ∃ after content,
      (run ["a.pb", "-l", "kotlin", "-o", "out"] (workplace "a.proto" []) .usual).2 = after ∧
      (workplace "a.proto" []).node? ["work", "out"] = none ∧
      after.node? ["work", "out"] = some .directory ∧
      after.node? ["work", "out", "a.klm.kt"] = some (.file content) ∧
      after.node? ["work", "a.klm.kt"] = none ∧
      after.node? ["work", "a.pb"] = some (.file (bareSet "a.proto")) := by
  have dry : Arguments.read ["a.pb", "-l", "kotlin", "-o", "out", "--dry-run"] = .ok
      { descriptorSet := some "a.pb", language := .text "kotlin", output := .text "out",
        dryRun := true } := by
    decide +kernel
  refine ⟨(run_disk _ _ _).2.1 (.dryRun _ dry rfl), ?_⟩
  have parsed : ∃ descriptors ∈ Wire.readFileSet (bareSet "a.proto").data.toList,
      ∃ files ∈ (loadSet descriptors none .usual).toOption,
        (marked files).map (·.name) = ["a.proto"] := by
    decide +kernel
  have named : Stub.stripExtension "a.proto" ++ Target.kotlin.fileSuffix = "a.klm.kt" := by
    decide +kernel
  have path : (Path.ofString "out").join (Path.ofString "a.klm.kt") = ⟨"", ["out", "a.klm.kt"]⟩ := by
    decide +kernel
  obtain ⟨o, stub, completes, -, strings, writes⟩ := kotlin_completes [] parsed named
  rw [path] at writes
  have stored : ((workplace "a.proto" []).storeAll o.writes).1 = .ok () := by
    have there : (workplace "a.proto" []).node? ["work"] = some .directory := rfl
    have free : (workplace "a.proto" []).node? ["work", "out"] = none := rfl
    have made := Disk.makeDirectories_bare there (by decide) (by decide) (by decide +kernel) free
    have located : ((workplace "a.proto" []).put ["work", "out"] .directory).locate
        ⟨"", ["out", "a.klm.kt"]⟩ = .ok ["work", "out", "a.klm.kt"] := by
      rw [Disk.locate_eq_follow _ (by decide +kernel) (by decide +kernel)]
      rfl
    have vacant : ((workplace "a.proto" []).put ["work", "out"] .directory).node?
        ["work", "out", "a.klm.kt"] = none := rfl
    have written := Disk.write_free located rfl (vacant.trans_ne (by simp)) stub
    rw [writes, Disk.storeAll, Disk.store_made made written]
    rfl
  have done : ∃ report,
      (run ["a.pb", "-l", "kotlin", "-o", "out"] (workplace "a.proto" []) .usual).1 = .ok report ∧
        report.exitCode = 0 := by
    rw [run_of_completes completes, stored]
    exact ⟨_, Output.report_stored (Output.unnameable?_of_names strings), rfl⟩
  obtain ⟨report, done, success⟩ := done
  obtain ⟨directory, other, entries, given, -, made, written, grown⟩ :=
    (run_disk _ _ _).2.2 _ report kotlin_read rfl rfl rfl done success
  cases given
  obtain rfl : other = o := by
    have same := (plan_output_iff.mpr made).symm.trans (plan_output_iff.mpr completes)
    exact Plan.output.inj (Except.ok.inj same)
  obtain ⟨file, rest, files, name, nothing⟩ := List.map_eq_cons_iff.mp strings
  cases List.map_eq_nil_iff.mp nothing
  rw [files] at written
  cases written with
  | cons here rest =>
    cases rest
    obtain ⟨own, same, rfl⟩ := here
    obtain rfl : "a.klm.kt" = own := Text.CodePoints.string.inj (name.symm.trans same)
    rw [path] at grown
    refine ⟨_, file.content, rfl, rfl, ?_, ?_, ?_, ?_⟩ <;> rw [grown.node?] <;> rfl

/-- A run that completes its output and fails has stored the files before the one that is refused, and
has made the directories above them and some above the refused one, the outermost first. So the disk
is as it was exactly if all this was on it before. -/
theorem run_refused {report : Report} (completes : Completes arguments d.look stack o)
    (done : (run arguments d stack).1 = .ok report) (failure : report.exitCode = 1) :
    ∃ fault before p content rest made,
      report = (RunFailure.unwritable fault).report o.warnings ∧
      o.writes = before ++ (p, content) :: rest ∧ made <+: d.stations p.parent ∧
      d.Grown (d.directoriesOf before ++ made) (d.filesOf before) (run arguments d stack).2 ∧
      ((∀ place, (run arguments d stack).2.node? place = d.node? place) ↔
        (∀ place content, (d.filesOf before).lookup place = some content →
          d.node? place = some (.file content)) ∧
        ∀ place ∈ d.directoriesOf before ++ made, d.node? place = some .directory) := by
  have course := run_of_completes completes
  rw [course] at done ⊢
  rcases Output.report_cases done with ⟨fault, refused, rfl⟩ | ⟨-, -, success⟩
  · obtain ⟨before, p, content, rest, made, split, start, grown⟩ :=
      Disk.storeAll_error (Prod.ext refused rfl)
    exact ⟨fault, before, p, content, rest, made, rfl, split, start, grown, grown.same_iff⟩
  · cases success.symm.trans failure

/-- A disk on which a directory has the name of the support file. -/
def blocked : Disk := workplace "a.proto" [(["work", "kalam.swift"], .directory)]

/-- The stub is written before the support file is refused. -/
theorem blocked_run : ∃ o stub, Completes ["a.pb", "-l", "swift"] blocked.look .usual o ∧
    run ["a.pb", "-l", "swift"] blocked .usual =
      (.ok ((RunFailure.unwritable ⟨.isDirectory, ⟨"", ["kalam.swift"]⟩⟩).report o.warnings),
        blocked.put ["work", "a.klm.swift"] (.file stub)) := by
  obtain ⟨o, stub, support, completes, -, writes⟩ :=
    swift_completes [(["work", "kalam.swift"], .directory)]
  have stored : blocked.storeAll o.writes = (.error ⟨.isDirectory, ⟨"", ["kalam.swift"]⟩⟩,
      blocked.put ["work", "a.klm.swift"] (.file stub)) := by
    rw [writes, blocked, swift_stored rfl]
    generalize between : (workplace "a.proto" [(["work", "kalam.swift"], .directory)]).put
      ["work", "a.klm.swift"] (.file stub) = d
    have there : d.node? d.working = some .directory := by rw [← between]; rfl
    have taken : d.node? (d.working ++ ["kalam.swift"]) = some .directory := by rw [← between]; rfl
    have last := Disk.store_bare_taken there (by decide) (by decide) (by decide +kernel) taken support
    rw [Disk.storeAll, last]
  have course : run ["a.pb", "-l", "swift"] blocked .usual = _ := run_of_completes completes
  refine ⟨o, stub, completes, ?_⟩
  rw [course, stored, Output.report_refused (by decide)]

theorem run_refused_blocked : ∃ o, Completes ["a.pb", "-l", "swift"] blocked.look .usual o ∧
    ∃ before p content rest made, o.writes = before ++ (p, content) :: rest ∧
      made <+: blocked.stations p.parent ∧
      blocked.Grown (blocked.directoriesOf before ++ made) (blocked.filesOf before)
        (run ["a.pb", "-l", "swift"] blocked .usual).2 := by
  obtain ⟨o, stub, completes, course⟩ := blocked_run
  obtain ⟨-, before, p, content, rest, made, -, split, start, grown, -⟩ :=
    run_refused completes (congrArg Prod.fst course) rfl
  exact ⟨o, completes, before, p, content, rest, made, split, start, grown⟩

/-- A run that fails may leave output behind. -/
theorem refused_leaves_output : ∃ warnings content,
    (run ["a.pb", "-l", "swift"] blocked .usual).1 =
      .ok ((RunFailure.unwritable ⟨.isDirectory, ⟨"", ["kalam.swift"]⟩⟩).report warnings) ∧
    blocked.node? ["work", "a.klm.swift"] = none ∧
    (run ["a.pb", "-l", "swift"] blocked .usual).2.node? ["work", "a.klm.swift"] = some (.file content) := by
  obtain ⟨o, stub, -, course⟩ := blocked_run
  have absent : blocked.node? ["work", "a.klm.swift"] = none := rfl
  have left : (blocked.put ["work", "a.klm.swift"] (.file stub)).node? ["work", "a.klm.swift"] =
      some (.file stub) := by rw [Disk.node?_put _ (by decide), if_pos rfl]
  rw [course]
  exact ⟨o.warnings, stub, rfl, absent, left⟩

end RpcBindings.Command
