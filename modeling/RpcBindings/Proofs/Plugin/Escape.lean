import RpcBindings.Proofs.Options
import RpcBindings.Proofs.Plugin.Input
import RpcBindings.Proofs.Plugin.Reason
import RpcBindings.Proofs.Target.Names

/-! Which requests are answered. A request is answered with the files of its run or with the reason
why there are none, unless it breaks the run down; here is every way for it to do so. -/
namespace RpcBindings

open Outcome Schema

/-! ### Which failures are breakdowns -/

theorem OptionError.breakdown?_iff {e : OptionError} {cause : Breakdown} :
    e.breakdown? = some cause ↔ e = .broken cause := by
  cases e <;> simp [breakdown?]

theorem Schema.LoadError.breakdown?_iff {e : LoadError} {cause : Breakdown} :
    e.breakdown? = some cause ↔ e = .broken cause := by
  cases e <;> simp [breakdown?]

/-! ### Settings that are strings -/

namespace Options

theorem nonEmpty_strings {settings : Settings} {key : String}
    (strings : ∀ v, settings.lookup (.string key) = some v → ∃ s, v = .text (.string s)) :
    (nonEmpty settings key).UnsetOr Text.IsString := by
  cases found : settings.lookup (.string key) with
  | none => exact .inl (by simp [nonEmpty, found])
  | some v =>
    obtain ⟨s, rfl⟩ := strings v found
    by_cases empty : s = ""
    · exact .inl (by simp [nonEmpty, found, empty])
    · exact .inr ⟨.string s, by simp [nonEmpty, found, empty], s, rfl⟩

/-- Overrides that are strings give options that are strings. -/
theorem load_strings {language : String} {overrides : Settings} {options : Options}
    (strings : ∀ entry ∈ overrides, ∃ s, entry.2 = .text (.string s))
    (set : (load language overrides none).2 = .ok options) :
    options.fallbackPackage.UnsetOr Text.IsString ∧
      options.runtimeOutput.UnsetOr Text.IsString := by
  have held (key : String) (v : Value)
      (found : (putEntries [] overrides).lookup (.string key) = some v) :
      ∃ s, v = .text (.string s) := by
    rw [lookup_putEntries, List.lookup_nil, Option.or_none] at found
    exact strings _ (List.mem_reverse.mp (mem_of_lookup found))
  have made : ofSettings (Text.onString Text.lower language) (putEntries [] overrides) =
      .ok options := by
    have read : fileSettings none = .ok [] := rfl
    simpa only [load_eq read] using set
  obtain ⟨granularity, -, made⟩ := bind_ok_iff.mp made
  obtain ⟨bundled, -, made⟩ := bind_ok_iff.mp made
  obtain ⟨comments, -, made⟩ := bind_ok_iff.mp made
  cases made
  exact ⟨nonEmpty_strings (held _), nonEmpty_strings (held _)⟩

end Options

/-! ### Requests -/

namespace Plugin

variable {r : Request} {look : Path → Disk.Sight} {stack : Schema.Stack}

theorem attach_ok_iff {file : OutputFile} {attached : ResponseFile} :
    attach file = .ok attached ↔
      file.name = .string attached.name ∧ file.content = attached.content := by
  rcases file with ⟨name, content⟩
  rcases attached with ⟨attachedName, attachedContent⟩
  cases name <;> simp [attach, Text.CodePoints.encodable]

theorem attach_error_iff {file : OutputFile} {cause : Breakdown} :
    attach file = .error cause ↔
      ∃ codes, file.name = .broken codes ∧ cause = .notBytes (.ofCodes codes) := by
  rcases file with ⟨name, content⟩
  cases name <;> simp [attach, Text.CodePoints.encodable, eq_comm]

/-- Of the files of a run only the support file can have a name without bytes. -/
theorem attach_run_error {g : Generator} {files : List SchemaFile} {result : RunResult}
    {cause : Breakdown} (returned : g.runBuiltin files = .ok result)
    (failed : result.files.mapM attach = .error cause) :
    ∃ slices codes, g.Finished files slices ∧ g.needsSupport = true ∧
      g.supportName = .text (.broken codes) ∧ cause = .notBytes (.ofCodes codes) := by
  rw [Generator.runBuiltin_eq] at returned
  obtain ⟨slices, last, delivered⟩ := g.delivered_of_run returned
  obtain ⟨before, file, after, split, -, refused⟩ := mapM_error_iff.mp failed
  obtain ⟨codes, name, rfl⟩ := attach_error_iff.mp refused
  have member : file ∈ slices.flatten ++ last.toList := by
    rw [← delivered.files_eq, split]
    simp
  rcases List.mem_append.mp member with generated | bundled
  · obtain ⟨string, same⟩ := Generator.Finished.names delivered.generated file generated
    cases name.symm.trans same
  · have own : last = some file := by simpa using bundled
    obtain ⟨-, -, -, named⟩ := delivered.bundled.copied file own
    have needed := delivered.bundled.present_iff.mp (by simp [own])
    exact ⟨slices, codes, delivered.generated, needed, name ▸ named, rfl⟩

/-- If the support file has a name without bytes, the run returns and its files cannot be attached. -/
theorem attach_run_broken {g : Generator} {files : List SchemaFile}
    {slices : List (List OutputFile)} {codes : List Nat} (builtin : g.Builtin)
    (finished : g.Finished files slices) (needed : g.needsSupport = true)
    (named : g.supportName = .text (.broken codes)) :
    ∃ result, g.runBuiltin files = .ok result ∧
      result.files.mapM attach = .error (.notBytes (.ofCodes codes)) := by
  obtain ⟨result, returned⟩ := builtin.runBuiltin_ok finished named
  refine ⟨result, returned, ?_⟩
  rcases ok_or_error (result.files.mapM attach) with ⟨attached, done⟩ | ⟨cause, failed⟩
  · -- If all files could be attached, so could the support file, which is the last of them.
    obtain ⟨slices, last, delivered⟩ :=
      g.delivered_of_run ((Generator.runBuiltin_eq files).symm.trans returned)
    obtain ⟨file, own⟩ := Option.isSome_iff_exists.mp (delivered.bundled.present_iff.mpr needed)
    obtain ⟨-, -, -, name⟩ := delivered.bundled.copied file own
    obtain ⟨_, attached⟩ := mapM_ok_members done file (by simp [delivered.files_eq, own])
    rw [(attach_ok_iff.mp attached).1, named] at name
    cases name
  · obtain ⟨_, other, -, -, name, rfl⟩ := attach_run_error returned failed
    cases named.symm.trans name
    exact failed

/-! ### What a request comes to -/

def Request.options (r : Request) (look : Path → Disk.Sight) : Except OptionError Options :=
  ((Options.Request.ofParameter r.parameter).load look).2

/-- Whether a request comes to a language with options. -/
def Request.Chooses (r : Request) (look : Path → Disk.Sight) (g : Generator) : Prop :=
  ∃ options, r.options look = .ok options ∧
    Catalog.builtin.createWith options.language options = .ok g

theorem Request.Chooses.builtin {g : Generator} (chosen : r.Chooses look g) : g.Builtin := by
  obtain ⟨options, -, made⟩ := chosen
  exact Catalog.builtin_of_createWith made

theorem Request.result_eq (r : Request) (look : Path → Disk.Sight) (stack : Schema.Stack) :
    (r.result look stack).2 =
      ((r.options look).mapError Failure.options >>= fun options => r.run options stack) := by
  unfold result options
  rcases (Options.Request.ofParameter r.parameter).load look with ⟨warnings, cause | options⟩ <;> rfl

theorem Request.result_ok_iff {result : RunResult} :
    (r.result look stack).2 = .ok result ↔ ∃ g files, r.Chooses look g ∧
      Schema.loadFiles r.files r.wanted stack = .ok files ∧ g.runBuiltin files = .ok result := by
  simp only [result_eq, run, bind_ok_iff, mapError_ok_iff, Chooses]
  constructor
  · rintro ⟨options, set, g, made, files, loaded, returned⟩
    exact ⟨g, files, ⟨options, set, made⟩, loaded, returned⟩
  · rintro ⟨g, files, ⟨options, set, made⟩, loaded, returned⟩
    exact ⟨options, set, g, made, files, loaded, returned⟩

/-- Which of the stages of a request has failed. -/
theorem Request.result_error_iff {failure : Failure} :
    (r.result look stack).2 = .error failure ↔
      (∃ cause, r.options look = .error cause ∧ .options cause = failure) ∨
      (∃ options cause, r.options look = .ok options ∧
        Catalog.builtin.createWith options.language options = .error cause ∧
        .catalog cause = failure) ∨
      (∃ g cause, r.Chooses look g ∧ Schema.loadFiles r.files r.wanted stack = .error cause ∧
        .schema cause = failure) ∨
      ∃ g files cause, r.Chooses look g ∧ Schema.loadFiles r.files r.wanted stack = .ok files ∧
        g.runBuiltin files = .error cause ∧ .run cause = failure := by
  simp only [result_eq, run, bind_error_iff, mapError_error_iff, mapError_ok_iff, Chooses]
  constructor
  · rintro (unset | ⟨options, set, ⟨cause, unmade, same⟩ | ⟨g, made, unloaded | ⟨files, loaded, cause,
      failed, same⟩⟩⟩)
    · exact .inl unset
    · exact .inr (.inl ⟨options, cause, set, unmade, same⟩)
    · obtain ⟨cause, unloaded, same⟩ := unloaded
      exact .inr (.inr (.inl ⟨g, cause, ⟨options, set, made⟩, unloaded, same⟩))
    · exact .inr (.inr (.inr ⟨g, files, cause, ⟨options, set, made⟩, loaded, failed, same⟩))
  · rintro (unset | ⟨options, cause, set, unmade, same⟩ | ⟨g, cause, ⟨options, set, made⟩, unloaded,
      same⟩ | ⟨g, files, cause, ⟨options, set, made⟩, loaded, failed, same⟩)
    · exact .inl unset
    · exact .inr ⟨options, set, .inl ⟨cause, unmade, same⟩⟩
    · exact .inr ⟨options, set, .inr ⟨g, made, .inl ⟨cause, unloaded, same⟩⟩⟩
    · exact .inr ⟨options, set, .inr ⟨g, made, .inr ⟨files, loaded, cause, failed, same⟩⟩⟩

/-- The response to a request: the reason why there are no files, or all files of its run. -/
inductive Request.Answer (r : Request) (look : Path → Disk.Sight) (stack : Schema.Stack) :
    Response → Prop where
  | failed {failure} : (r.result look stack).2 = .error failure → failure.breakdown? = none →
      failure.message ≠ "" → r.Answer look stack ⟨some failure.message, []⟩
  | done {result files} : (r.result look stack).2 = .ok result →
      List.Forall₂ (fun made file => made.name = .string file.name ∧ made.content = file.content)
        result.files files →
      r.Answer look stack ⟨none, files⟩

/-- How a request goes without a response. -/
inductive Request.Escape (r : Request) (look : Path → Disk.Sight) (stack : Schema.Stack) :
    Breakdown → Prop where
  /-- The file of settings cannot be read, and not for a reason that is reported. -/
  | settings {path cause} : (Options.Request.ofParameter r.parameter).file = some path →
      Options.ReadBreakdown path (look path) cause → r.Escape look stack cause
  /-- A schema file lacks parts, or has a name that is no text, or the stack is too small for the objects
  of the schema files. -/
  | schema {g cause} : r.Chooses look g → Schema.LoadBreakdown r.files stack cause →
      r.Escape look stack cause
  /-- A file breaks down, and those before it do not. -/
  | file {g files template before f after cause} : r.Chooses look g →
      Schema.loadFiles r.files r.wanted stack = .ok files → g.loadTemplate = .ok template →
      files = before ++ f :: after → f.generate = true → g.AllGenerated template before →
      g.FileFailure template f (.broken cause) → r.Escape look stack cause
  /-- The support file is named by a value that is no text. -/
  | unlisted {g files slices} : r.Chooses look g →
      Schema.loadFiles r.files r.wanted stack = .ok files → g.Finished files slices →
      g.needsSupport = true → g.supportName.NoText →
      r.Escape look stack (.notJoinable slices.flatten.length g.supportName.typeName)
  /-- The support file has a name without bytes. -/
  | unnamed {g files slices codes} : r.Chooses look g →
      Schema.loadFiles r.files r.wanted stack = .ok files → g.Finished files slices →
      g.needsSupport = true → g.supportName = .text (.broken codes) →
      r.Escape look stack (.notBytes (.ofCodes codes))

theorem Request.respond_eq (r : Request) (look : Path → Disk.Sight) (stack : Schema.Stack) :
    (r.respond look stack).2 = respondTo (r.result look stack).2 := rfl

theorem respondTo_ok_iff {result : Except Failure RunResult} {response : Response} :
    respondTo result = .ok response ↔
      (∃ failure, result = .error failure ∧ failure.breakdown? = none ∧
        ⟨some failure.message, []⟩ = response) ∨
      ∃ done files, result = .ok done ∧ done.files.mapM attach = .ok files ∧
        ⟨none, files⟩ = response := by
  cases result with
  | error failure => cases broken : failure.breakdown? <;> simp [respondTo, broken]
  | ok done => simp [respondTo, bind_ok_iff]

theorem respondTo_error_iff {result : Except Failure RunResult} {cause : Breakdown} :
    respondTo result = .error cause ↔
      (∃ failure, result = .error failure ∧ failure.breakdown? = some cause) ∨
      ∃ done, result = .ok done ∧ done.files.mapM attach = .error cause := by
  cases result with
  | error failure => cases broken : failure.breakdown? <;> simp [respondTo, broken]
  | ok done => simp [respondTo, bind_error_iff]

theorem Request.respond_ok_iff {response : Response} :
    (r.respond look stack).2 = .ok response ↔ r.Answer look stack response := by
  rw [respond_eq, respondTo_ok_iff]
  constructor
  · rintro (⟨failure, failed, prepared, rfl⟩ | ⟨result, files, done, attached, rfl⟩)
    · exact .failed failed prepared (Failure.message_ne_empty prepared)
    · exact .done done ((mapM_ok_iff.mp attached).imp fun _ _ => attach_ok_iff.mp)
  · intro answer
    cases answer with
    | failed failed prepared _ => exact .inl ⟨_, failed, prepared, rfl⟩
    | done done same =>
      have attached := mapM_ok_iff.mpr (same.imp fun _ _ => attach_ok_iff.mpr)
      exact .inr ⟨_, _, done, attached, rfl⟩

theorem Request.options_broken_iff {cause : Breakdown} :
    r.options look = .error (.broken cause) ↔
      ∃ path, (Options.Request.ofParameter r.parameter).file = some path ∧
        Options.ReadBreakdown path (look path) cause := by
  rw [options, Options.Request.load, Options.load_broken_iff]
  simp

theorem Request.escape_of_failure {failure : Failure} {cause : Breakdown}
    (failed : (r.result look stack).2 = .error failure) (broken : failure.breakdown? = some cause) :
    r.Escape look stack cause := by
  rcases result_error_iff.mp failed with ⟨e, unset, rfl⟩ | ⟨_, e, -, -, rfl⟩ |
    ⟨g, e, chosen, unloaded, rfl⟩ | ⟨g, files, e, chosen, loaded, run, rfl⟩
  · cases OptionError.breakdown?_iff.mp broken
    obtain ⟨path, named, unread⟩ := options_broken_iff.mp unset
    exact .settings named unread
  · cases broken
  · cases Schema.LoadError.breakdown?_iff.mp broken
    exact .schema chosen (Schema.loadFiles_broken_iff.mp unloaded)
  · rcases chosen.builtin.runBuiltin_error_iff.mp run with
      ⟨template, before, f, after, _, read, split, wanted, fine, failure, rfl⟩ |
      ⟨slices, finished, needed, noText, rfl⟩
    · cases broken
      exact .file chosen loaded read split wanted fine failure
    · cases broken
      exact .unlisted chosen loaded finished needed noText

theorem Request.respond_error_iff {cause : Breakdown} :
    (r.respond look stack).2 = .error cause ↔ r.Escape look stack cause := by
  rw [respond_eq, respondTo_error_iff]
  constructor
  · rintro (⟨failure, failed, broken⟩ | ⟨result, returned, unattached⟩)
    · exact escape_of_failure failed broken
    · obtain ⟨g, files, chosen, loaded, run⟩ := result_ok_iff.mp returned
      obtain ⟨slices, codes, finished, needed, named, rfl⟩ := attach_run_error run unattached
      exact .unnamed chosen loaded finished needed named
  · intro escape
    have of_run {g files e} (chosen : r.Chooses look g)
        (loaded : Schema.loadFiles r.files r.wanted stack = .ok files)
        (failed : g.runBuiltin files = .error e) : (r.result look stack).2 = .error (.run e) :=
      result_error_iff.mpr (.inr (.inr (.inr ⟨_, _, _, chosen, loaded, failed, rfl⟩)))
    cases escape with
    | settings named unread =>
      have unset := options_broken_iff.mpr ⟨_, named, unread⟩
      exact .inl ⟨_, result_error_iff.mpr (.inl ⟨_, unset, rfl⟩), rfl⟩
    | schema chosen unread =>
      have unloaded : Schema.loadFiles r.files r.wanted stack = _ :=
        Schema.loadFiles_broken_iff.mpr unread
      exact .inl ⟨_, result_error_iff.mpr (.inr (.inr (.inl ⟨_, _, chosen, unloaded, rfl⟩))), rfl⟩
    | file chosen loaded read split wanted fine failure =>
      have failed := chosen.builtin.runBuiltin_error_iff.mpr
        (.inl ⟨_, _, _, _, _, read, split, wanted, fine, failure, rfl⟩)
      exact .inl ⟨_, of_run chosen loaded failed, rfl⟩
    | unlisted chosen loaded finished needed noText =>
      have failed := chosen.builtin.runBuiltin_error_iff.mpr
        (.inr ⟨_, finished, needed, noText, rfl⟩)
      exact .inl ⟨_, of_run chosen loaded failed, rfl⟩
    | unnamed chosen loaded finished needed named =>
      obtain ⟨result, run, unattached⟩ := attach_run_broken chosen.builtin finished needed named
      exact .inr ⟨result, result_ok_iff.mpr ⟨_, _, chosen, loaded, run⟩, unattached⟩

/-! ### What goes without a response -/

/-- The breakdowns that a request can end in, however large the stack is. -/
inductive Unforeseen : Breakdown → Prop where
  | nameTooLong {path} : Unforeseen (.disk ⟨.nameTooLong, path⟩)
  | notText {fault} : Unforeseen (.notText fault)
  | limit {exceeded} : Unforeseen (.limit exceeded)
  | missingParts {paths} : Unforeseen (.missingParts paths)
  | noMember {typeName} : Unforeseen (.noMember typeName "split")
  | notHashable {typeName} : Unforeseen (.notHashable typeName)
  | notAppendable {typeName} : Unforeseen (.notAppendable typeName)
  | notBytes {fault} : Unforeseen (.notBytes fault)
  | notJoinable {index typeName} : Unforeseen (.notJoinable index typeName)

/-- A request breaks down in one of the unforeseen ways, or the stack is too small for its messages. -/
theorem Request.Escape.unforeseen {cause : Breakdown} (escape : r.Escape look stack cause) :
    Unforeseen cause ∨ cause = .stack ∧ ¬stack.Roomy r.files := by
  cases escape with
  | @settings path _ _ unread =>
    generalize look path = sight at unread
    exact .inl (by cases unread <;> constructor)
  | schema _ unread =>
    cases unread with
    | missing => exact .inl .missingParts
    | stack links full =>
      exact .inr ⟨rfl, fun roomy => Bool.false_ne_true (full.symm.trans (roomy.fits links))⟩
    | name => exact .inl .notText
  | file chosen _ read _ _ _ failure =>
    have failed := (Generator.generateFile_error_iff _).mpr failure
    obtain ⟨_, ⟨⟩, unbuilt | rfl | ⟨_, rfl⟩⟩ := chosen.builtin.fault_broken read failed
    · exact .inl (by cases unbuilt <;> constructor)
    · exact .inl .notAppendable
    · exact .inl .notBytes
  | unlisted => exact .inl .notJoinable
  | unnamed => exact .inl .notBytes

/-- Without a file of settings all settings are strings. -/
theorem Request.options_strings {options : Options}
    (none : (Options.Request.ofParameter r.parameter).file = none)
    (set : r.options look = .ok options) :
    options.fallbackPackage.UnsetOr Text.IsString ∧
      options.runtimeOutput.UnsetOr Text.IsString := by
  rw [Request.options, Options.Request.load, none] at set
  refine Options.load_strings (fun entry member => ?_) set
  obtain ⟨pair, -, rfl⟩ := List.mem_map.mp member
  exact ⟨pair.2, rfl⟩

/-- Without a file of settings only schema files go without a response. -/
theorem Request.Escape.schema_of_no_file {cause : Breakdown} (escape : r.Escape look stack cause)
    (none : (Options.Request.ofParameter r.parameter).file = none) :
    Schema.LoadBreakdown r.files stack cause := by
  have strings {g : Generator} (chosen : r.Chooses look g) :
      g.options.fallbackPackage.UnsetOr Text.IsString ∧
        g.options.runtimeOutput.UnsetOr Text.IsString := by
    obtain ⟨options, set, made⟩ := chosen
    rw [Catalog.options_of_createWith made]
    exact options_strings none set
  have named {g : Generator} (chosen : r.Chooses look g) (needed : g.needsSupport = true) :
      ∃ s, g.supportName = .text (.string s) := by
    obtain ⟨⟨asset, held⟩, -⟩ := g.needsSupport_iff.mp needed
    obtain ⟨_, name, s, rfl⟩ := g.supportName_text Text.isString_inherited.toInherited held
      (strings chosen).2
    exact ⟨s, name⟩
  cases escape with
  | settings here _ => cases none.symm.trans here
  | schema _ unread => exact unread
  | file chosen _ read _ _ _ failure =>
    obtain ⟨fallback, output⟩ := strings chosen
    obtain ⟨outputs, generated⟩ := chosen.builtin.generateFile_strings read _ fallback output
    cases generated.symm.trans ((Generator.generateFile_error_iff _).mpr failure)
  | unlisted chosen _ _ needed noText =>
    obtain ⟨s, name⟩ := named chosen needed
    exact absurd name (noText _)
  | unnamed chosen _ _ needed name =>
    obtain ⟨s, other⟩ := named chosen needed
    cases name.symm.trans other

/-- A request is answered with the files of its run or with the reason why there are none, unless it
breaks its run down. What does so is in the file of settings, or in a schema file that is none, or it is
the stack, if that has no room for all messages. -/
theorem respond_iff (r : Request) (look : Path → Disk.Sight) (stack : Schema.Stack) :
    (∀ response, (r.respond look stack).2 = .ok response ↔ r.Answer look stack response) ∧
    (∀ cause, (r.respond look stack).2 = .error cause ↔ r.Escape look stack cause) ∧
    (∀ cause, r.Escape look stack cause →
      Unforeseen cause ∨ cause = .stack ∧ ¬stack.Roomy r.files) ∧
    ((Options.Request.ofParameter r.parameter).file = none →
      ∀ cause, r.Escape look stack cause → Schema.LoadBreakdown r.files stack cause) :=
  ⟨fun _ => Request.respond_ok_iff, fun _ => Request.respond_error_iff,
    fun _ escape => escape.unforeseen, fun none _ escape => escape.schema_of_no_file none⟩

/-- Without a file of settings a request whose schema files can be loaded is answered with all files of
its run. -/
theorem Request.respond_of_loaded {options : Options} {g : Generator} {files : List SchemaFile}
    (none : (Options.Request.ofParameter r.parameter).file = none)
    (set : r.options look = .ok options)
    (made : Catalog.builtin.createWith options.language options = .ok g)
    (loaded : Schema.loadFiles r.files r.wanted stack = .ok files) :
    ∃ response, (r.respond look stack).2 = .ok response ∧ response.error = .none ∧
      response.files.map (fun file => Text.CodePoints.string file.name) =
        ((marked files).flatMap g.fileNames).map .string ++ g.supportNames := by
  have chosen : r.Chooses look g := ⟨options, set, made⟩
  obtain ⟨fallback, output⟩ := options_strings none set
  have own := Catalog.options_of_createWith made
  obtain ⟨result, returned⟩ := chosen.builtin.runBuiltin_strings (own ▸ fallback) (own ▸ output) files
  have come : (r.result look stack).2 = .ok result :=
    result_ok_iff.mpr ⟨g, files, chosen, loaded, returned⟩
  rcases ok_or_error (r.respond look stack).2 with ⟨response, done⟩ | ⟨cause, failed⟩
  · cases respond_ok_iff.mp done with
    | failed failed _ _ => cases come.symm.trans failed
    | @done _ attached run same =>
      cases come.symm.trans run
      refine ⟨_, done, rfl, ?_⟩
      rw [← Generator.runBuiltin_names returned, map_eq_map_iff_forall₂]
      exact same.flip.imp fun _ _ own => own.1.symm
  · have broken := (respond_error_iff.mp failed).schema_of_no_file none
    cases loaded.symm.trans (Schema.loadFiles_broken_iff.mpr broken)

/-- A message with a field of another, and a parameter. -/
def chained : Request where
  wanted := ["shop.proto"]
  parameter := "lang=kotlin,namespace_fallback=shop"
  files := [{
    name := some "shop.proto"
    messages := [
      { name := some "Order"
        fields := [{ name := some "item", number := some 1, typeName := some ".Item" }] },
      { name := some "Item" }] }]

/-- There is no file at all. -/
def nothing : Path → Disk.Sight := fun _ => .error .notFound

/-- With room for three messages, which is one more than there are, the request is answered. With room
for one, that message is looked into and there is no room for the other. -/
theorem respond_iff_chained :
    (Options.Request.ofParameter chained.parameter).file = none ∧
    (∃ response, (chained.respond nothing (some 3)).2 = .ok response ∧
      chained.Answer nothing (some 3) response ∧
      response.error = none ∧ response.files.map (·.name) = ["shop.klm.kt"]) ∧
    (chained.respond nothing (some 1)).2 = .error .stack ∧
    Schema.LoadBreakdown chained.files (some 1) .stack ∧
    ¬Schema.Stack.Roomy (some 1) chained.files := by
  have noFile : (Options.Request.ofParameter chained.parameter).file = none := by decide +kernel
  have options : ∃ options ∈ (chained.options nothing).toOption,
      options.language = "kotlin" ∧ options.granularity = none := by decide +kernel
  obtain ⟨options, set, language, whole⟩ := ok_of_toOption options
  have made : Catalog.builtin.createWith options.language options =
      .ok ⟨Target.kotlin, options, some Target.kotlin.template⟩ := by
    rw [language]
    rfl
  have loaded : ∃ files ∈ (Schema.loadFiles chained.files chained.wanted (some 3)).toOption,
      (marked files).map (·.name) = ["shop.proto"] := by decide +kernel
  obtain ⟨files, loaded, wanted⟩ := ok_of_toOption loaded
  obtain ⟨response, done, fine, names⟩ := Request.respond_of_loaded noFile set made loaded
  have full : error? (chained.respond nothing (some 1)).2 = some .stack := by decide +kernel
  have failed := error?_iff.mp full
  obtain ⟨answered, -, -, -⟩ := respond_iff chained nothing (some 3)
  obtain ⟨-, broken, unforeseen, bySchema⟩ := respond_iff chained nothing (some 1)
  have escape := (broken .stack).mp failed
  refine ⟨noFile, ⟨response, done, (answered response).mp done, fine, ?_⟩, failed,
    bySchema noFile _ escape, ?_⟩
  · have bare : Generator.supportNames ⟨Target.kotlin, options, some Target.kotlin.template⟩ = [] := rfl
    have cut : Stub.stripExtension "shop.proto" ++ Target.kotlin.fileSuffix = "shop.klm.kt" := by
      decide +kernel
    rw [Generator.flatMap_fileNames_string (congrArg (·.getD .perFile) whole), bare, wanted,
      List.map_singleton, cut] at names
    have strings : (response.files.map (·.name)).map Text.CodePoints.string =
        ["shop.klm.kt"].map .string := by
      rw [List.map_map]
      exact names
    have injective : Function.Injective Text.CodePoints.string := fun _ _ => Text.CodePoints.string.inj
    exact List.map_injective_iff.mpr injective strings
  · rcases unforeseen _ escape with other | ⟨-, small⟩
    · cases other
    · exact small

def configured : Request := { parameter := "lang=kotlin,config=c.json" }

theorem configured_not_text : ∃ fault,
    (configured.respond (fun _ => .ok ⟨#[0xFF]⟩) none).2 = .error (.notText fault) := by
  have named : (Options.Request.ofParameter configured.parameter).file = some ⟨"", ["c.json"]⟩ := by
    decide +kernel
  have json : Options.IsJson ⟨"", ["c.json"]⟩ := by
    unfold Options.IsJson
    decide +kernel
  obtain ⟨fault, unread⟩ : ∃ fault, Text.decodeUtf8 [0xFF] = .error fault := ⟨_, rfl⟩
  exact ⟨fault, Request.respond_error_iff.mpr (.settings named (.notText json unread))⟩

end Plugin

end RpcBindings
