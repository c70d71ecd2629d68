import RpcBindings.Proofs.Command.Agreement
import RpcBindings.Proofs.Target.Names

/-! How far a run comes before anything is written. Either it is spared from writing, for a reason that
its arguments and what it reads give, or it comes to a complete output: that of a generator for the
schema files that it loads. -/
namespace RpcBindings.Command

open Outcome Schema

variable {arguments : List String} {look : Path → Disk.Sight} {stack : Stack} {o : Output}
  {g : Generator} {files : List SchemaFile}

/-! ### Failures and outputs -/

/-- What can fail on the way to an output, given arguments that ask for one. -/
inductive Arguments.Fails (a : Arguments) (look : Path → Disk.Sight) (stack : Stack) : Prop
  | descriptors (trouble) (failed : a.descriptors look = .error trouble)
  | unnamed (unnamed : a.language = .nothing)
  | result (descriptors language trouble) (known : a.descriptors look = .ok descriptors)
      (named : a.language = .text language)
      (failed : (a.result language descriptors look stack).2 = .error trouble)
  | directory (trouble) (failed : a.directory = .error trouble)

/-- Whether an output is what its arguments come to. -/
structure Output.Complete (o : Output) (look : Path → Disk.Sight) (stack : Stack) : Prop where
  result : ∃ descriptors language result, o.arguments.descriptors look = .ok descriptors ∧
    o.arguments.language = .text language ∧
    o.arguments.result language descriptors look stack = (o.warnings, .ok result) ∧ o.files = result.files
  directory : o.arguments.directory = .ok o.directory

theorem Arguments.directory_ok_iff {a : Arguments} {p : Path} :
    a.directory = .ok p ↔ ∃ name, a.output = .text name ∧ Path.ofString name = p := by
  cases given : a.output <;> simp [directory, given]

/-- Arguments that ask for an output fail, with a report of the failure if there is a report, or come
to the output. -/
theorem Arguments.planOutput_cases (a : Arguments) (look : Path → Disk.Sight) (stack : Stack) :
    (a.Fails look stack ∧ ∀ plan, a.planOutput look stack = .ok plan →
        ∃ report, plan = .finished report ∧ report.exitCode = 1) ∨
      ∃ o, o.arguments = a ∧ o.Complete look stack ∧ a.planOutput look stack = .ok (.output o) := by
  have reported (trouble : Trouble) (warnings : List String) (plan : Plan)
      (finished : (trouble.report warnings).map .finished = .ok plan) :
      ∃ report, plan = .finished report ∧ report.exitCode = 1 := by
    cases trouble with
    | failure cause => cases finished; exact ⟨_, rfl, rfl⟩
    | breakdown cause => cases finished
  cases known : a.descriptors look with
  | error trouble =>
    refine .inl ⟨.descriptors trouble known, fun plan planned => ?_⟩
    rw [planOutput, known] at planned
    exact reported trouble [] plan planned
  | ok descriptors =>
    cases named : a.language with
    | nothing =>
      refine .inl ⟨.unnamed named, fun plan planned => ?_⟩
      rw [planOutput, known, named] at planned
      cases planned
    | text language =>
      have planned := planOutput_eq known named stack
      rcases made : a.result language descriptors look stack with ⟨warnings, trouble | result⟩
      · rw [made] at planned
        exact .inl ⟨.result descriptors language trouble known named (by rw [made]),
          fun plan there => reported trouble warnings plan (planned.symm.trans there)⟩
      · cases placed : a.directory with
        | error trouble =>
          rw [made, placed] at planned
          exact .inl ⟨.directory trouble placed,
            fun plan there => reported trouble warnings plan (planned.symm.trans there)⟩
        | ok directory =>
          rw [made, placed] at planned
          exact .inr ⟨⟨a, directory, result.files, warnings⟩, rfl,
            ⟨⟨descriptors, language, result, known, named, made, rfl⟩, placed⟩, planned⟩

theorem Output.Complete.not_fails (complete : o.Complete look stack) :
    ¬ o.arguments.Fails look stack := by
  obtain ⟨descriptors, language, result, known, named, made, -⟩ := complete.result
  rintro (⟨trouble, failed⟩ | unnamed | ⟨others, other, trouble, known', named', failed⟩ |
    ⟨trouble, failed⟩)
  · cases known.symm.trans failed
  · cases named.symm.trans unnamed
  · cases known.symm.trans known'
    cases named.symm.trans named'
    rw [made] at failed
    cases failed
  · cases complete.directory.symm.trans failed

/-- A run that asks for an output and comes to it. -/
structure Completes (arguments : List String) (look : Path → Disk.Sight) (stack : Stack)
    (o : Output) : Prop extends o.Complete look stack where
  read : Arguments.read arguments = .ok o.arguments
  noList : o.arguments.listLanguages = false
  noInfo : (o.arguments.languageInfo.map Operand.content).getD "" = ""

/-- Why a run leaves the disk alone: it asks for information only, or not to write, or something fails
on the way to its output. -/
inductive Spared (arguments : List String) (look : Path → Disk.Sight) (stack : Stack) : Prop
  | halted (halt) (read : Arguments.read arguments = .error halt)
  | languages (a) (read : Arguments.read arguments = .ok a) (asked : a.listLanguages = true)
  | language (a) (read : Arguments.read arguments = .ok a)
      (asked : (a.languageInfo.map Operand.content).getD "" ≠ "")
  | dryRun (a) (read : Arguments.read arguments = .ok a) (dry : a.dryRun = true)
  | failed (a) (read : Arguments.read arguments = .ok a) (fails : a.Fails look stack)

theorem Arguments.plan_of_asked {a : Arguments} (noList : a.listLanguages = false)
    (noInfo : (a.languageInfo.map Operand.content).getD "" = "") :
    a.plan look stack = a.planOutput look stack := by
  simp only [plan, noList, noInfo, Bool.false_eq_true, if_false]

/-- A run that comes to an output, and only such a run, plans to write it. -/
theorem plan_output_iff :
    plan arguments look stack = .ok (.output o) ↔ Completes arguments look stack o := by
  constructor
  · intro planned
    unfold plan at planned
    split at planned
    · cases planned
    next a read =>
      by_cases list : a.listLanguages = true
      · rw [Arguments.plan, if_pos list] at planned
        cases planned
      have noList : a.listLanguages = false := by simpa using list
      by_cases noInfo : (a.languageInfo.map Operand.content).getD "" = ""
      · rw [Arguments.plan_of_asked noList noInfo] at planned
        rcases a.planOutput_cases look stack with ⟨-, failure⟩ | ⟨other, rfl, complete, made⟩
        · obtain ⟨report, same, -⟩ := failure _ planned
          cases same
        · cases planned.symm.trans made
          exact ⟨complete, read, noList, noInfo⟩
      · rw [Arguments.plan, if_neg list] at planned
        split at planned
        next none => exact absurd none noInfo
        next => cases planned
  · intro completes
    obtain ⟨descriptors, language, result, known, named, made, files⟩ := completes.result
    rw [plan, completes.read]
    dsimp only
    rw [Arguments.plan_of_asked completes.noList completes.noInfo, Arguments.planOutput_eq known named,
      made, completes.directory]
    simp only [← files]

/-- A run is spared, or it comes to an output and is to write it. -/
theorem spared_or_completes (arguments : List String) (look : Path → Disk.Sight) (stack : Stack) :
    Spared arguments look stack ∨
      ∃ o, Completes arguments look stack o ∧ o.arguments.dryRun = false := by
  cases read : Arguments.read arguments with
  | error halt => exact .inl (.halted halt read)
  | ok a =>
    by_cases list : a.listLanguages = true
    · exact .inl (.languages a read list)
    by_cases noInfo : (a.languageInfo.map Operand.content).getD "" = ""
    case neg => exact .inl (.language a read noInfo)
    by_cases dry : a.dryRun = true
    · exact .inl (.dryRun a read dry)
    rcases a.planOutput_cases look stack with ⟨fails, -⟩ | ⟨o, rfl, complete, -⟩
    · exact .inl (.failed a read fails)
    · exact .inr ⟨o, ⟨complete, read, by simpa using list, noInfo⟩, by simpa using dry⟩

/-- A run that is spared comes to an output only if it is not to write it. -/
theorem Spared.dry (spared : Spared arguments look stack)
    (completes : Completes arguments look stack o) : o.arguments.dryRun = true := by
  have same {a : Arguments} (read : Arguments.read arguments = .ok a) : o.arguments = a :=
    Except.ok.inj (completes.read.symm.trans read)
  cases spared with
  | halted halt read => cases completes.read.symm.trans read
  | languages a read asked =>
    obtain rfl := same read
    cases completes.noList.symm.trans asked
  | language a read asked =>
    obtain rfl := same read
    exact absurd completes.noInfo asked
  | dryRun a read dry =>
    obtain rfl := same read
    exact dry
  | failed a read fails =>
    obtain rfl := same read
    exact absurd fails completes.not_fails

/-! ### What an output is made of -/

/-- The generator and the schema files that an output comes from. -/
structure Output.From (o : Output) (look : Path → Disk.Sight) (stack : Stack) (g : Generator)
    (files : List SchemaFile) : Prop where
  generator : ∃ language options, o.arguments.language = .text language ∧
    (o.arguments.options language look).2 = .ok options ∧
    Catalog.builtin.createWith language options = .ok g
  schema : ∃ descriptors names, o.arguments.descriptors look = .ok descriptors ∧
    o.arguments.wanted = .ok names ∧ loadSet descriptors names stack = .ok files
  run : ∃ result, g.runBuiltin files = .ok result ∧ o.files = result.files

/-- Every complete output has been generated from schema files that have been loaded. -/
theorem Output.Complete.exists_from (complete : o.Complete look stack) :
    ∃ g files, o.From look stack g files := by
  obtain ⟨descriptors, language, result, known, named, made, same⟩ := complete.result
  obtain ⟨options, set, generated⟩ := Arguments.result_ok_iff.mp (congrArg Prod.snd made)
  obtain ⟨g, names, files, created, wanted, loaded, returned⟩ := Arguments.generate_ok_iff.mp generated
  exact ⟨g, files, ⟨language, options, named, set, created⟩, ⟨descriptors, names, known, wanted, loaded⟩,
    ⟨result, returned, same⟩⟩

/-- The files of an output by their names. -/
theorem Output.From.names (source : o.From look stack g files) :
    o.files.map (·.name) = ((marked files).flatMap g.fileNames).map .string ++ g.supportNames := by
  obtain ⟨result, returned, same⟩ := source.run
  rw [same, Generator.runBuiltin_names returned]

/-- A run comes to its output if its descriptors can be loaded and its settings are strings or unset. -/
theorem completes_of_loaded {a : Arguments} {language : String} {descriptors : List FileDescriptor}
    {names : Option (List String)} {options : Options} {directory : Path}
    (read : Arguments.read arguments = .ok a) (noList : a.listLanguages = false)
    (noInfo : (a.languageInfo.map Operand.content).getD "" = "")
    (known : a.descriptors look = .ok descriptors) (named : a.language = .text language)
    (set : (a.options language look).2 = .ok options)
    (made : Catalog.builtin.createWith language options = .ok g) (wanted : a.wanted = .ok names)
    (loaded : loadSet descriptors names stack = .ok files) (placed : a.directory = .ok directory)
    (fallback : options.fallbackPackage.UnsetOr Text.IsString)
    (output : options.runtimeOutput.UnsetOr Text.IsString) :
    ∃ o, o.arguments = a ∧ o.directory = directory ∧ Completes arguments look stack o ∧
      o.From look stack g files := by
  have own := Catalog.options_of_createWith made
  obtain ⟨result, returned⟩ := (Catalog.builtin_of_createWith made).runBuiltin_strings
    (own ▸ fallback) (own ▸ output) files
  have generated := Arguments.generate_ok_iff.mpr ⟨g, names, files, made, wanted, loaded, returned⟩
  have come := Arguments.result_ok_iff.mpr ⟨options, set, generated⟩
  refine
    ⟨⟨a, directory, result.files, (a.result language descriptors look stack).1⟩, rfl, rfl, ?_, ?_⟩
  · exact ⟨⟨⟨descriptors, language, result, known, named, Prod.ext rfl come, rfl⟩, placed⟩, read,
      noList, noInfo⟩
  · exact ⟨⟨language, options, named, set, made⟩, ⟨descriptors, names, known, wanted, loaded⟩,
      ⟨result, returned, rfl⟩⟩

/-- A run that is told a language, where its descriptors are and where to put its output, and nothing
else, comes to one file for each schema file that no other one depends on, and the support file of the
language if it has one. -/
theorem completes_of_named {name language key directory : String} {target : Target}
    {descriptors : List FileDescriptor} {bytes : ByteArray}
    (read : Arguments.read arguments = .ok
      { descriptorSet := some name, language := .text language, output := .text directory })
    (named : name ≠ "") (seen : look (Path.ofString name) = .ok bytes)
    (decoded : Wire.readFileSet bytes.data.toList = some descriptors)
    (resolved : Catalog.builtin.resolve language = .ok (key, target))
    (loaded : loadSet descriptors none stack = .ok files) :
    ∃ o, Completes arguments look stack o ∧ o.arguments.dryRun = false ∧
      o.directory = Path.ofString directory ∧
      o.files.map (·.name) =
        ((marked files).map (·.name)).map
            (fun name => .string (Stub.stripExtension name ++ target.fileSuffix)) ++
          (target.support.map fun file => .string file.name).toList := by
  have known : Arguments.descriptors
      { descriptorSet := some name, language := .text language, output := .text directory } look =
      .ok descriptors := by
    unfold Arguments.descriptors
    split
    next empty => exact absurd empty named
    next => simp only [Option.getD_some, seen, decoded]
  have made (options : Options) : Catalog.builtin.createWith language options =
      .ok ⟨target, options, some target.template⟩ := by
    rw [Catalog.createWith, resolved]
    rfl
  have set := congrArg Prod.snd (Options.load_nothing language)
  obtain ⟨o, same, placed, completes, source⟩ := completes_of_loaded read rfl rfl known
    rfl set (made _) rfl loaded rfl (.inl rfl) (.inl rfl)
  refine ⟨o, completes, same ▸ rfl, placed, ?_⟩
  rw [source.names, Generator.flatMap_fileNames_string rfl, Generator.supportNames_unset rfl, if_pos rfl]

end RpcBindings.Command
