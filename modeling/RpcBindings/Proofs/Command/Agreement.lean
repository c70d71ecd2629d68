import RpcBindings.Command.Run
import RpcBindings.Plugin
import RpcBindings.Proofs.Catalog
import RpcBindings.Proofs.Disk.Place
import RpcBindings.Proofs.Options
import RpcBindings.Proofs.Parameter
import RpcBindings.Proofs.Target.Names

/-! The program run from the command line and the program run as a plugin. Told the same, they come
to the same output, or fail in the same way. -/
namespace RpcBindings

open Outcome

/-! ### Overrides of two kinds -/

namespace Options

/-- The value false and the word for it say the same about the support file. -/
theorem sameUse_false (settings : Settings) :
    SameUse (putEntry "bundle_runtime" (.bool false) settings)
      (putEntry "bundle_runtime" (.text "false") settings) where
  values key listed := by
    have other : Text.CodePoints.string key ≠ "bundle_runtime" := by
      rintro ⟨⟩
      revert listed
      decide
    rw [lookup_putEntry, lookup_putEntry, if_neg other, if_neg other]
  flags key _ := by
    by_cases here : key = "bundle_runtime"
    · have word : boolOf? (.text "false") = some false := by decide +kernel
      have value : boolOf? (.bool false) = some false := rfl
      simp only [flag, here, lookup_putEntry, if_pos, word, value]
    · have other : Text.CodePoints.string key ≠ "bundle_runtime" := fun same =>
        here (Text.CodePoints.string.inj same)
      simp only [flag, lookup_putEntry, if_neg other]

theorem load_false (language : String) (file : Option SettingsFile) :
    load language [("bundle_runtime", .bool false)] file =
      load language [("bundle_runtime", .text "false")] file := by
  cases read : fileSettings file with
  | error cause => rw [load_error read, load_error read]
  | ok settings =>
    have names : warningsOf (putEntry "bundle_runtime" (.bool false) settings) =
        warningsOf (putEntry "bundle_runtime" (.text "false") settings) := by
      rw [warningsOf_names, warningsOf_names, keys_putEntry, keys_putEntry]
    rw [load_eq read, load_eq read]
    exact congrArg₂ Prod.mk names ((sameUse_false settings).ofSettings_eq _)

theorem load_language {language : String} {overrides : Settings} {file : Option SettingsFile}
    {options : Options} (set : (load language overrides file).2 = .ok options) :
    options.language = Catalog.key language := by
  cases read : fileSettings file with
  | error cause => simp [load_error read] at set
  | ok settings =>
    rw [load_eq read] at set
    have made : ofSettings (Catalog.key language) (putEntries settings overrides) = .ok options :=
      set
    obtain ⟨granularity, -, made⟩ := bind_ok_iff.mp made
    obtain ⟨bundled, -, made⟩ := bind_ok_iff.mp made
    obtain ⟨comments, -, made⟩ := bind_ok_iff.mp made
    cases made
    rfl

end Options

namespace Schema

theorem loadSet_of_known {descriptors : List FileDescriptor} {names : List String}
    (known : ∀ name ∈ names, Text.Raw.text name ∈ descriptors.map (·.path)) (stack : Stack) :
    loadSet descriptors (some names) stack = loadFiles descriptors (names.map .text) stack := by
  have missing : names.filter (Text.Raw.text · ∉ descriptors.map (·.path)) = [] :=
    List.filter_eq_nil_iff.mpr fun name member => by simpa using known name member
  simp only [loadSet, missing]

end Schema

/-! ### The same order given in two ways -/

/-- Whether two failures are of one kind: they are the same, or two spellings of a language are both
unknown. -/
inductive Failure.Alike : Failure → Failure → Prop
  | same (failure) : Alike failure failure
  | unknown (language spelling available) :
      Alike (.catalog (.unknownLanguage language available))
        (.catalog (.unknownLanguage spelling available))

namespace Command

/-- The output that a run comes to before it knows where to write it, its language and descriptors
being known, with the warnings about its options. -/
def Arguments.result (a : Arguments) (language : String)
    (descriptors : List Schema.FileDescriptor) (look : Path → Disk.Sight) (stack : Schema.Stack) :
    List String × Except Trouble RunResult :=
  let (warnings, options) := a.options language look
  match options with
  | .error cause => (warnings, .error (generationTrouble (.options cause)))
  | .ok options => (warnings, a.generate language descriptors options stack)

theorem Arguments.generate_ok_iff {a : Arguments} {language : String}
    {descriptors : List Schema.FileDescriptor} {options : Options} {stack : Schema.Stack}
    {result : RunResult} : a.generate language descriptors options stack = .ok result ↔
      ∃ g names files, Catalog.builtin.createWith language options = .ok g ∧ a.wanted = .ok names ∧
        Schema.loadSet descriptors names stack = .ok files ∧ g.runBuiltin files = .ok result := by
  simp only [generate, bind_ok_iff, mapError_ok_iff]
  constructor
  · rintro ⟨g, made, names, wanted, files, loaded, returned⟩
    exact ⟨g, names, files, made, wanted, loaded, returned⟩
  · rintro ⟨g, names, files, made, wanted, loaded, returned⟩
    exact ⟨g, made, names, wanted, files, loaded, returned⟩

/-- What a run comes to has been generated with its options. -/
theorem Arguments.result_ok_iff {a : Arguments} {language : String}
    {descriptors : List Schema.FileDescriptor} {look : Path → Disk.Sight} {stack : Schema.Stack}
    {result : RunResult} : (a.result language descriptors look stack).2 = .ok result ↔
      ∃ options, (a.options language look).2 = .ok options ∧
        a.generate language descriptors options stack = .ok result := by
  unfold Arguments.result
  rcases a.options language look with ⟨warnings, cause | options⟩ <;> simp

/-- A run reports what keeps it from its result, and writes the files of the result. -/
theorem Arguments.planOutput_eq {a : Arguments} {look : Path → Disk.Sight} {language : String}
    {descriptors : List Schema.FileDescriptor} (read : a.descriptors look = .ok descriptors)
    (named : a.language = .text language) (stack : Schema.Stack) :
    a.planOutput look stack =
      match (a.result language descriptors look stack).2, a.directory with
      | .error trouble, _ | .ok _, .error trouble =>
        (trouble.report (a.result language descriptors look stack).1).map .finished
      | .ok result, .ok directory =>
        .ok (.output ⟨a, directory, result.files, (a.result language descriptors look stack).1⟩) := by
  unfold planOutput result
  simp only [read, named]
  rcases a.options language look with ⟨warnings, cause | options⟩
  · rfl
  · cases generated : a.generate language descriptors options stack with
    | error trouble => simp only [generated]
    | ok result => cases a.directory <;> simp only [generated]

/-- What either way to run the program is told: a language, a file of settings, whether to leave the
support file out, and the schema files that output is wanted for. -/
structure Order where
  language : String
  config : Option String
  noRuntime : Bool
  names : List String

namespace Order

/-- The order as arguments of the command line, whatever else they say. -/
def arguments (o : Order) (others : Arguments) : Arguments :=
  { others with
    language := .text o.language
    config := o.config.map Operand.text
    noRuntime := o.noRuntime
    files := some (o.names.map Operand.text) }

/-- The order as the settings of a parameter. -/
def settings (o : Order) : List (String × String) :=
  ("lang", o.language) :: (o.config.map fun path => ("config", path)).toList ++
    if o.noRuntime then [("bundle_runtime", "false")] else []

def request (o : Order) (descriptors : List Schema.FileDescriptor) : Plugin.Request where
  wanted := o.names.map .text
  parameter := Parameter.write o.settings
  files := descriptors

/-- Whether an order can be put into a parameter. -/
structure Writable (o : Order) : Prop where
  named : o.language ≠ ""
  language : Parameter.Clean o.language.toList
  config : ∀ path ∈ o.config, Parameter.Clean path.toList

theorem Writable.cleanPair {o : Order} (writable : o.Writable) :
    ∀ setting ∈ o.settings, Parameter.CleanPair setting.1.toList setting.2.toList := by
  have key (name : String) (member : name ∈ ["lang", "config", "bundle_runtime"])
      {value : List Char} (clean : Parameter.Clean value) :
      Parameter.CleanPair name.toList value := by
    have all : ∀ name ∈ ["lang", "config", "bundle_runtime"],
        ',' ∉ name.toList ∧ Text.trim name.toList = name.toList ∧ name.toList ≠ [] ∧
          '=' ∉ name.toList := by decide +kernel
    obtain ⟨noComma, trimmed, nonEmpty, noEquals⟩ := all name member
    exact ⟨⟨noComma, trimmed⟩, clean, nonEmpty, noEquals⟩
  intro setting member
  rcases List.mem_append.mp member with first | last
  · rcases List.mem_cons.mp first with rfl | config
    · exact key "lang" (by simp) writable.language
    · obtain ⟨path, given, rfl⟩ : ∃ path, o.config = some path ∧ ("config", path) = setting := by
        simpa using config
      exact key "config" (by simp) (writable.config path given)
  · have support : setting = ("bundle_runtime", "false") := by
      split at last
      · exact List.mem_singleton.mp last
      · cases last
    subst support
    exact key "bundle_runtime" (by simp) ⟨by decide +kernel, by unfold Text.Trimmed; decide +kernel⟩

theorem Writable.ofParameter {o : Order} (writable : o.Writable) :
    Options.Request.ofParameter (Parameter.write o.settings) =
      { language := o.language
        file := Options.path? (o.config.getD "")
        overrides := if o.noRuntime then [("bundle_runtime", .text "false")] else [] } := by
  have distinct : (o.settings.map (·.1)).Nodup := by
    unfold settings
    cases o.config <;> cases o.noRuntime <;> simp
  have read := Parameter.read_write (by simp [settings]) distinct writable.cleanPair
  unfold Options.Request.ofParameter
  simp only [read]
  have named := writable.named
  unfold settings
  cases o.config <;> cases o.noRuntime <;> simp [named, List.lookup_cons]

/-- Both ways to run the program come to the same options. -/
theorem Writable.options_eq {o : Order} (writable : o.Writable) (others : Arguments)
    (descriptors : List Schema.FileDescriptor) (look : Path → Disk.Sight) :
    (o.arguments others).options o.language look =
      (Options.Request.ofParameter (o.request descriptors).parameter).load look := by
  have read := writable.ofParameter
  simp only [request, read, Options.Request.load]
  obtain ⟨language, config, noRuntime, names⟩ := o
  cases noRuntime with
  | false => cases config <;> rfl
  | true =>
    cases config with
    | none => exact Options.load_false language none
    | some path => exact Options.load_false language _

/-- What both ways to run the program come to: one result, or failures of one kind. -/
inductive Agree : Except Trouble RunResult → Except Failure RunResult → Prop
  | done (result) : Agree (.ok result) (.ok result)
  | failed {ours theirs} : ours.Alike theirs → Agree (.error (generationTrouble ours)) (.error theirs)

theorem arguments_wanted (o : Order) (others : Arguments) :
    (o.arguments others).wanted = .ok (some o.names) := by
  have named : (o.names.map Operand.text).contains .nothing = false := by simp
  have texts : (o.names.map Operand.text).map Operand.content = o.names := by
    simp [Function.comp_def, Operand.content]
  simp only [Arguments.wanted, arguments, named, texts]
  rfl

/-- An order given on the command line and the same order given in a request agree. -/
theorem result_agrees {o : Order} (writable : o.Writable) (others : Arguments)
    {descriptors : List Schema.FileDescriptor} (look : Path → Disk.Sight)
    (known : ∀ name ∈ o.names, Text.Raw.text name ∈ descriptors.map (·.path)) (stack : Schema.Stack) :
    Agree ((o.arguments others).result o.language descriptors look stack).2
      ((o.request descriptors).result look stack).2 := by
  have same := writable.options_eq others descriptors look
  have wanted := o.arguments_wanted others
  have loader := Schema.loadSet_of_known known stack
  unfold Arguments.result Plugin.Request.result
  rw [same]
  rcases loading : (Options.Request.ofParameter (o.request descriptors).parameter).load look with
    ⟨warnings, cause | options⟩
  · exact .failed (.same _)
  · have spelled : options.language = Catalog.key o.language :=
      Options.load_language (congrArg Prod.snd (same.trans loading))
    rcases Catalog.builtin.createWith_key o.language options with
      ⟨g, made, spelledMade⟩ | ⟨unmade, spelledUnmade⟩
    · simp only [Arguments.generate, Plugin.Request.run, spelled, made, spelledMade, wanted, loader,
        request, mapError_ok, ok_bind]
      cases Schema.loadFiles descriptors (o.names.map .text) stack with
      | error cause => exact .failed (.same _)
      | ok files =>
        simp only [mapError_ok, ok_bind]
        cases g.runBuiltin files with
        | error cause => exact .failed (.same _)
        | ok result => exact .done result
    · simp only [Arguments.generate, Plugin.Request.run, spelled, unmade, spelledUnmade]
      exact .failed (.unknown _ _ _)

/-- A language by its alias in another case, a file of settings, no support file, and one file that is
there. -/
def unsupported : Order := ⟨"KT", some "c.json", true, ["a.proto"]⟩

def plainSet : List Schema.FileDescriptor := [{ name := some "a.proto" }]

def setting : ByteArray := "\x7b\"granularity\": \"per_file\"\x7d".toUTF8

/-- A working directory with the file of settings, and nothing else. -/
def desk : Disk where
  working := ["work"]
  entries := [(["work"], .directory), (["work", "c.json"], .file setting)]

theorem desk_look : desk.look (Path.ofString "c.json") = .ok setting := by
  have path : Path.ofString "c.json" = ⟨"", ["c.json"]⟩ := by decide +kernel
  rw [path, Disk.look, Disk.find, Disk.locate_bare rfl (by decide) (by decide) (by decide +kernel)]
  rfl

/-- Both ways to run the program come to the output for the file. -/
theorem result_agrees_alias :
    unsupported.Writable ∧
      (∀ name ∈ unsupported.names, Text.Raw.text name ∈ plainSet.map (·.path)) ∧
      ∃ result, ((unsupported.arguments {}).result "KT" plainSet desk.look .usual).2 = .ok result ∧
        ((unsupported.request plainSet).result desk.look .usual).2 = .ok result ∧
        result.files.map (·.name) = ["a.klm.kt"] := by
  have clean : ∀ s ∈ ["KT", "c.json"],
      ',' ∉ s.toList ∧ Text.trim s.toList = s.toList := by decide +kernel
  have writable : unsupported.Writable := {
    named := by decide
    language := ⟨(clean "KT" (by simp)).1, (clean "KT" (by simp)).2⟩
    config := fun path given => by
      cases given
      exact ⟨(clean "c.json" (by simp)).1, (clean "c.json" (by simp)).2⟩ }
  have known : ∀ name ∈ unsupported.names, Text.Raw.text name ∈ plainSet.map (·.path) := by
    decide
  have set : ∃ options ∈ ((unsupported.arguments {}).options "KT" desk.look).2.toOption,
      options.granularity = some .perFile ∧ options.fallbackPackage = .null ∧
        options.runtimeOutput = .null := by
    have asked : (unsupported.arguments {}).options "KT" desk.look =
        Options.load "KT" [("bundle_runtime", .bool false)]
          (some ⟨Path.ofString "c.json", desk.look (Path.ofString "c.json")⟩) := rfl
    rw [asked, desk_look]
    decide +kernel
  have loaded : ∃ files ∈ (Schema.loadSet plainSet (some unsupported.names) .usual).toOption,
      (marked files).map (·.name) = ["a.proto"] := by decide +kernel
  obtain ⟨options, set, whole, fallback, output⟩ := ok_of_toOption set
  obtain ⟨files, loaded, wanted⟩ := ok_of_toOption loaded
  have resolved : Catalog.builtin.resolve "KT" = .ok ("kotlin", Target.kotlin) :=
    Catalog.resolve_ok_iff.mpr ⟨by decide +kernel, rfl⟩
  have made : Catalog.builtin.createWith "KT" options =
      .ok ⟨Target.kotlin, options, some Target.kotlin.template⟩ := by
    rw [Catalog.createWith, resolved]
    rfl
  obtain ⟨result, returned⟩ := (Catalog.builtin_of_createWith made).runBuiltin_strings
    (.inl fallback) (.inl output) files
  have generated := Arguments.generate_ok_iff.mpr
    ⟨_, _, files, made, unsupported.arguments_wanted {}, loaded, returned⟩
  have ours := Arguments.result_ok_iff.mpr ⟨options, set, generated⟩
  have agree := result_agrees writable {} desk.look known .usual
  have theirs : ((unsupported.request plainSet).result desk.look .usual).2 = .ok result := by
    rw [show unsupported.language = "KT" from rfl, ours] at agree
    generalize ((unsupported.request plainSet).result desk.look .usual).2 = other at agree ⊢
    cases agree
    rfl
  have cut : Stub.stripExtension "a.proto" ++ Target.kotlin.fileSuffix = "a.klm.kt" := by
    decide +kernel
  refine ⟨writable, known, result, ours, theirs, ?_⟩
  rw [Generator.runBuiltin_names returned,
    Generator.flatMap_fileNames_string (congrArg (·.getD .perFile) whole), wanted, List.map_singleton, cut]
  rfl

end Order

end Command

end RpcBindings
