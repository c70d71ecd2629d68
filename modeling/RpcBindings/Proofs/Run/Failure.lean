import RpcBindings.Proofs.Run.Output
import RpcBindings.Proofs.Support
import RpcBindings.Proofs.Target.Template

/-! Why a run has no output. Four steps can fail, in this order: the template, a marked schema file,
the support file, the list of the names of the output. The first failure is the one reported. -/
namespace RpcBindings

open Outcome Schema

namespace Generator

variable (g : Generator) {T : Type} [Template.Engine T]

/-! ### One file -/

/-- Why one part of a schema file, all of it or a single service, gives no text. -/
inductive PartFailure (template : Template.LoadedBy T) (name : String) (part : Stub.File)
    (service : Option String) : FileFault → Prop where
  /-- The names for the template cannot be put together. -/
  | names {cause} : g.scope part = .error cause →
      PartFailure template name part service (.broken cause)
  /-- The template fails, and the error names the schema file and the service. -/
  | template {scope cause} : g.scope part = .ok scope → template.render scope = .error cause →
      cause.breakdown? = none → PartFailure template name part service (.render ⟨name, service, cause⟩)
  /-- The template breaks down. -/
  | breakdown {scope cause breakdown} : g.scope part = .ok scope →
      template.render scope = .error cause → cause.breakdown? = some breakdown →
      PartFailure template name part service (.broken breakdown)
  /-- The text has no bytes. -/
  | bytes {scope text fault} : g.scope part = .ok scope → template.render scope = .ok text →
      Layout.tidyText text = .error fault →
      PartFailure template name part service (.broken (.notBytes fault))

theorem fillIn_error_iff {template : Template.LoadedBy T} {part : Stub.File} {service : Option String}
    {fault : FileFault} :
    g.fillIn template part service = .error fault ↔
      (∃ cause, g.scope part = .error cause ∧ fault = .broken cause) ∨
      ∃ scope cause, g.scope part = .ok scope ∧ template.render scope = .error cause ∧
        (cause.breakdown? = none ∧ fault = .render ⟨part.schemaName, service, cause⟩ ∨
          ∃ breakdown, cause.breakdown? = some breakdown ∧ fault = .broken breakdown) := by
  cases named : g.scope part with
  | error cause => simp [fillIn, ofBreakdown, named, eq_comm]
  | ok scope =>
    cases rendered : template.render scope with
    | ok text => simp [fillIn, ofBreakdown, named, rendered]
    | error cause =>
      cases broken : cause.breakdown? <;>
        simp [fillIn, ofBreakdown, named, rendered, broken, eq_comm,
          throw, throwThe, MonadExceptOf.throw]

theorem fillIn_ok_iff {template : Template.LoadedBy T} {part : Stub.File} {service : Option String}
    {text : Text.CodePoints} :
    g.fillIn template part service = .ok text ↔
      ∃ scope, g.scope part = .ok scope ∧ template.render scope = .ok text := by
  cases named : g.scope part with
  | error cause => simp [fillIn, ofBreakdown, named]
  | ok scope =>
    cases rendered : template.render scope with
    | ok text => simp [fillIn, ofBreakdown, named, rendered]
    | error cause =>
      cases broken : cause.breakdown? <;>
        simp [fillIn, ofBreakdown, named, rendered, broken,
          throw, throwThe, MonadExceptOf.throw]

theorem output_error_iff {template : Template.LoadedBy T} {whole part : Stub.File}
    {service : Option String} {fault : FileFault} :
    g.output template whole part service = .error fault ↔
      g.PartFailure template part.schemaName part service fault := by
  have rendering : g.output template whole part service = .error fault ↔
      g.fillIn template part service = .error fault ∨
      ∃ text, g.fillIn template part service = .ok text ∧
        ∃ cause, Layout.tidyText text = .error cause ∧ FileFault.broken (.notBytes cause) = fault := by
    simp [output, render, ofBreakdown, bind_error_iff]
  rw [rendering, fillIn_error_iff]
  constructor
  · rintro ((⟨cause, named, rfl⟩ | ⟨scope, cause, named, rendered, ⟨none, rfl⟩ | ⟨_, some, rfl⟩⟩) |
      ⟨text, filled, cause, laid, rfl⟩)
    · exact .names named
    · exact .template named rendered none
    · exact .breakdown named rendered some
    · obtain ⟨scope, named, rendered⟩ := (fillIn_ok_iff g).mp filled
      exact .bytes named rendered laid
  · intro failure
    cases failure with
    | names named => exact .inl (.inl ⟨_, named, rfl⟩)
    | template named rendered none =>
      exact .inl (.inr ⟨_, _, named, rendered, .inl ⟨none, rfl⟩⟩)
    | breakdown named rendered some =>
      exact .inl (.inr ⟨_, _, named, rendered, .inr ⟨_, some, rfl⟩⟩)
    | bytes named rendered laid =>
      exact .inr ⟨_, (fillIn_ok_iff g).mpr ⟨_, named, rendered⟩, _, laid, rfl⟩

theorem output_ok_iff {template : Template.LoadedBy T} {whole part : Stub.File}
    {service : Option String} {file : OutputFile} :
    g.output template whole part service = .ok file ↔
      ∃ text s, g.fillIn template part service = .ok text ∧ Layout.tidyText text = .ok s ∧
        ⟨g.outputName whole service, s.toUTF8⟩ = file := by
  simp [output, render, ofBreakdown, bind_ok_iff]

/-- Why a schema file cannot be generated. -/
inductive FileFailure (template : Template.LoadedBy T) (f : SchemaFile) : FileFault → Prop where
  /-- It cannot be put into the terms of the language. -/
  | build {cause} : g.build f = .error cause → FileFailure template f (.broken cause)
  /-- All of it fails, where a file is generated as a whole. -/
  | whole {file fault} : g.build f = .ok file → g.granularity = .perFile →
      g.PartFailure template f.name file none fault → FileFailure template f fault
  /-- The first service fails that does, where each service has a file of its own. -/
  | service {file before s after fault} : g.build f = .ok file → g.granularity = .perService →
      file.services = before ++ s :: after →
      (∀ earlier ∈ before, ∃ output,
        g.output template file (file.forService earlier) (some earlier.name) = .ok output) →
      g.PartFailure template f.name (file.forService s) (some s.name) fault →
      FileFailure template f fault

theorem build_schemaName {f : SchemaFile} {file : Stub.File} (built : g.build f = .ok file) :
    file.schemaName = f.name := by
  rw [build, Stub.ofSchema] at built
  obtain ⟨_, _, rest⟩ := bind_ok_iff.mp built
  obtain ⟨_, _, made⟩ := bind_ok_iff.mp rest
  cases made
  rfl

theorem generateFile_perFile {template : Template.LoadedBy T} {f : SchemaFile} {file : Stub.File}
    (built : g.build f = .ok file) (whole : g.granularity = .perFile) :
    g.generateFile template f = (g.output template file file none).map fun output => [output] := by
  simp only [generateFile, ofBreakdown, built, whole, mapError_ok, ok_bind]
  cases g.output template file file none <;> rfl

/-- What comes of a schema file that is generated as a whole: one file, with the text that the template
gives for it. -/
theorem generateFile_perFile_ok {template : Template.LoadedBy T} {f : SchemaFile}
    {outputs : List OutputFile} (whole : g.granularity = .perFile)
    (generated : g.generateFile template f = .ok outputs) :
    ∃ file codes text, g.build f = .ok file ∧ g.fillIn template file none = .ok codes ∧
      Layout.tidyText codes = .ok text ∧ outputs = [⟨g.outputName file none, text.toUTF8⟩] := by
  cases built : g.build f with
  | error cause =>
    rw [generateFile, built] at generated
    cases generated
  | ok file =>
    rw [generateFile_perFile g built whole] at generated
    obtain ⟨output, put, rfl⟩ := map_ok_iff.mp generated
    obtain ⟨codes, text, filled, laid, rfl⟩ := (output_ok_iff g).mp put
    exact ⟨file, codes, text, rfl, filled, laid, rfl⟩

theorem generateFile_perService {template : Template.LoadedBy T} {f : SchemaFile} {file : Stub.File}
    (built : g.build f = .ok file) (each : g.granularity = .perService) :
    g.generateFile template f = file.services.mapM fun s =>
      g.output template file (file.forService s) (some s.name) := by
  simp only [generateFile, ofBreakdown, built, each, mapError_ok, ok_bind]

theorem generateFile_error_iff {template : Template.LoadedBy T} {f : SchemaFile} {fault : FileFault} :
    g.generateFile template f = .error fault ↔ g.FileFailure template f fault := by
  cases built : g.build f with
  | error cause =>
    constructor
    · intro failed
      rw [generateFile, built] at failed
      cases failed
      exact .build built
    · intro failure
      rw [generateFile, built]
      cases failure with
      | build here => cases built.symm.trans here; rfl
      | whole here => cases built.symm.trans here
      | service here => cases built.symm.trans here
  | ok file =>
    have name := g.build_schemaName built
    cases whole : g.granularity with
    | perFile =>
      rw [generateFile_perFile g built whole, map_error_iff, output_error_iff, name]
      constructor
      · exact .whole built whole
      · intro failure
        cases failure with
        | build here => cases built.symm.trans here
        | whole here _ failed => cases built.symm.trans here; exact failed
        | service _ here => cases whole.symm.trans here
    | perService =>
      rw [generateFile_perService g built whole, mapM_error_iff]
      constructor
      · rintro ⟨before, s, after, split, fine, failed⟩
        have failure := (output_error_iff g).mp failed
        exact .service built whole split fine (name ▸ failure)
      · intro failure
        cases failure with
        | build here => cases built.symm.trans here
        | whole _ here => cases whole.symm.trans here
        | service here _ split fine failed =>
          cases built.symm.trans here
          exact ⟨_, _, _, split, fine, (output_error_iff g).mpr (name ▸ failed)⟩

/-! ### The run -/

def AllGenerated (template : Template.LoadedBy T) (files : List SchemaFile) : Prop :=
  ∀ f ∈ files, f.generate = true → ∃ slice, g.generateFile template f = .ok slice

/-- Why a run has no output: the first step that fails, all steps before it being done. -/
inductive RunFailure (store : SupportStore) (d : Disk) (files : List SchemaFile) :
    RunError → Prop where
  /-- The template is missing or cannot be read, whatever the files are. -/
  | template {cause} : g.loadTemplate (T := T) = .error cause →
      RunFailure store d files (.template cause)
  /-- A marked file fails, and those before it do not. -/
  | file {template : Template.LoadedBy T} {before f after fault} : g.loadTemplate = .ok template →
      files = before ++ f :: after → f.generate = true → g.AllGenerated template before →
      g.FileFailure template f fault → RunFailure store d files (.file fault)
  /-- The support file is needed and cannot be read. -/
  | support {template : Template.LoadedBy T} {asset fault} : g.loadTemplate = .ok template →
      g.AllGenerated template files → g.needsSupport = true → g.target.support = some asset →
      store.contents.lookup asset.name = none →
      d.read (store.directory.join (Path.ofString asset.name)) = .error fault →
      RunFailure store d files
        (.support ⟨asset.name, store.directory, fault, store.available d⟩)
  /-- The support file is needed and there, but the options name it by a value that is no text. All
  of the output has been made by then. -/
  | listing {template : Template.LoadedBy T} {slices asset content} : g.loadTemplate = .ok template →
      List.Forall₂ (fun f slice => g.generateFile template f = .ok slice) (marked files) slices →
      g.needsSupport = true → g.target.support = some asset →
      (store.read d asset.name).1 = .ok content → (∀ name, g.supportName ≠ .text name) →
      RunFailure store d files
        (.listing (.notJoinable slices.flatten.length g.supportName.typeName))

theorem bundleSupport_error_iff {store : SupportStore} {d : Disk} {cause : SupportError} :
    (g.bundleSupport store d).1 = .error cause ↔ g.needsSupport = true ∧
      ∃ asset, g.target.support = some asset ∧ (store.read d asset.name).1 = .error cause := by
  cases needed : g.needsSupport with
  | false => simp [bundleSupport_unneeded g store d needed]
  | true =>
    obtain ⟨⟨asset, held⟩, -⟩ := (needsSupport_iff g).mp needed
    simp [bundleSupport_needed g store d needed held, held]

theorem bundleSupport_some_iff {store : SupportStore} {d : Disk} {copy : SupportCopy} :
    (g.bundleSupport store d).1 = .ok (some copy) ↔ g.needsSupport = true ∧
      copy.name = g.supportName ∧
      ∃ asset, g.target.support = some asset ∧ (store.read d asset.name).1 = .ok copy.content := by
  cases needed : g.needsSupport with
  | false => simp [bundleSupport_unneeded g store d needed]
  | true =>
    obtain ⟨⟨asset, held⟩, -⟩ := (needsSupport_iff g).mp needed
    rcases copy with ⟨name, content⟩
    simp only [bundleSupport_needed g store d needed held, held, map_ok_iff]
    constructor
    · rintro ⟨_, read, ⟨⟩⟩
      exact ⟨trivial, rfl, asset, rfl, read⟩
    · rintro ⟨-, rfl, _, ⟨⟩, read⟩
      exact ⟨content, read, rfl⟩

theorem conclude_error_iff {p : Progress} {copy : Option SupportCopy} {cause : Breakdown} :
    g.conclude p copy = .error cause ↔ ∃ c, copy = some c ∧ (∀ name, c.name ≠ .text name) ∧
      cause = .notJoinable p.outputs.length c.name.typeName := by
  cases copy with
  | none => simp [conclude]
  | some c =>
    rcases c with ⟨name, content⟩
    cases name <;> simp [conclude, lastOutput, eq_comm]

theorem allGenerated_iff {template : Template.LoadedBy T} {files : List SchemaFile} :
    g.AllGenerated template files ↔
      ∃ slices, (marked files).mapM (g.generateFile template) = .ok slices := by
  constructor
  · intro fine
    refine mapM_ok_of_forall fun f member => ?_
    obtain ⟨here, wanted⟩ := List.mem_filter.mp member
    exact fine f here wanted
  · rintro ⟨slices, generated⟩ f member wanted
    exact mapM_ok_members generated f (List.mem_filter.mpr ⟨member, wanted⟩)

theorem run_error_cases {earlier : List Call} {store : SupportStore} {d : Disk}
    {files : List SchemaFile} {e : RunError} :
    (g.run (⟨g.heldTemplate earlier, store⟩ : Session T) d files).1 = .error e ↔
      (∃ cause, g.loadTemplate (T := T) = .error cause ∧ .template cause = e) ∨
      ∃ template : Template.LoadedBy T, g.loadTemplate = .ok template ∧
        ((∃ fault, (marked files).mapM (g.generateFile template) = .error fault ∧ .file fault = e) ∨
        ∃ slices, (marked files).mapM (g.generateFile template) = .ok slices ∧
          ((∃ cause, (g.bundleSupport store d).1 = .error cause ∧ .support cause = e) ∨
          ∃ copy, (g.bundleSupport store d).1 = .ok copy ∧
            ∃ cause, g.conclude (({} : Progress).after slices (unmarked files).length) copy =
              .error cause ∧ .listing cause = e)) := by
  simp only [run_eq, bind_error_iff, mapError_error_iff, mapError_ok_iff]

/-- A run fails as its first step does that fails, whatever runs came before. -/
theorem run_error_iff {earlier : List Call} {store : SupportStore} {d : Disk}
    {files : List SchemaFile} {e : RunError} :
    (g.run (⟨g.heldTemplate earlier, store⟩ : Session T) d files).1 = .error e ↔
      g.RunFailure (T := T) store d files e := by
  rw [run_error_cases]
  constructor
  · rintro (⟨cause, unread, rfl⟩ | ⟨template, loaded, ⟨fault, unmade, rfl⟩ | ⟨slices, made,
      ⟨cause, uncopied, rfl⟩ | ⟨copy, copied, cause, unlisted, rfl⟩⟩⟩)
    · exact .template unread
    · obtain ⟨before, f, after, split, wanted, fine, here⟩ :=
        firstError_filter.mp (mapM_error_iff.mp unmade)
      exact .file loaded split wanted fine ((generateFile_error_iff g).mp here)
    · obtain ⟨needed, asset, held, unread⟩ := (bundleSupport_error_iff g).mp uncopied
      obtain ⟨new, fault, refused, rfl⟩ := SupportStore.read_error_iff.mp unread
      exact .support loaded ((allGenerated_iff g).mpr ⟨slices, made⟩) needed held new refused
    · obtain ⟨⟨name, content⟩, rfl, noText, rfl⟩ := (conclude_error_iff g).mp unlisted
      obtain ⟨needed, rfl, asset, held, read⟩ := (bundleSupport_some_iff g).mp copied
      exact .listing loaded (mapM_ok_iff.mp made) needed held read noText
  · intro failure
    cases failure with
    | template unread => exact .inl ⟨_, unread, rfl⟩
    | file loaded split wanted fine here =>
      have first := firstError_filter.mpr
        ⟨_, _, _, split, wanted, fine, (generateFile_error_iff g).mpr here⟩
      exact .inr ⟨_, loaded, .inl ⟨_, mapM_error_iff.mpr first, rfl⟩⟩
    | support loaded fine needed held new refused =>
      obtain ⟨slices, made⟩ := (allGenerated_iff g).mp fine
      have unread := SupportStore.read_error_iff.mpr ⟨new, _, refused, rfl⟩
      have uncopied := (bundleSupport_error_iff g).mpr ⟨needed, _, held, unread⟩
      exact .inr ⟨_, loaded, .inr ⟨slices, made, .inl ⟨_, uncopied, rfl⟩⟩⟩
    | @listing _ _ _ content loaded each needed held read noText =>
      have copied : (g.bundleSupport store d).1 = .ok (some ⟨g.supportName, content⟩) :=
        (bundleSupport_some_iff g).mpr ⟨needed, rfl, _, held, read⟩
      have unlisted (p : Progress) : g.conclude p (some ⟨g.supportName, content⟩) =
          .error (.notJoinable p.outputs.length g.supportName.typeName) :=
        (conclude_error_iff g).mpr ⟨⟨g.supportName, content⟩, rfl, noText, rfl⟩
      exact .inr ⟨_, loaded, .inr ⟨_, mapM_ok_iff.mpr each, .inr ⟨_, copied, _, unlisted _, rfl⟩⟩⟩

/-- Files that no output is wanted for never make a run fail, nor keep it from failing. -/
theorem run_error_same_marked {earlier later : List Call} {store : SupportStore} {d : Disk}
    {files others : List SchemaFile} {e : RunError} (same : marked others = marked files) :
    (g.run (⟨g.heldTemplate later, store⟩ : Session T) d others).1 = .error e ↔
      (g.run (⟨g.heldTemplate earlier, store⟩ : Session T) d files).1 = .error e := by
  simp only [run_error_cases, conclude_error_iff, Progress.after, same]

/-- A run that needs no support file ends the same whatever has become of the support files. -/
theorem run_unneeded {earlier : List Call} {store : SupportStore} {d : Disk}
    {files : List SchemaFile} (unneeded : g.needsSupport = false) (other : SupportStore)
    (elsewhere : Disk) :
    (g.run (⟨g.heldTemplate earlier, other⟩ : Session T) elsewhere files).1 =
      (g.run (⟨g.heldTemplate earlier, store⟩ : Session T) d files).1 := by
  simp only [run_eq, bundleSupport_unneeded g _ _ unneeded]

/-- When and how a run fails, whatever engine fills in the templates and whatever runs came before: at
the first step that fails. Files that no output is wanted for and support files that no run needs have
no part in it. -/
theorem run_failure (earlier : List Call) (store : SupportStore) (d : Disk)
    (files : List SchemaFile) :
    (∀ e, (g.run (⟨g.heldTemplate earlier, store⟩ : Session T) d files).1 = .error e ↔
      g.RunFailure (T := T) store d files e) ∧
    (∀ later others e, marked others = marked files →
      ((g.run (⟨g.heldTemplate later, store⟩ : Session T) d others).1 = .error e ↔
        (g.run (⟨g.heldTemplate earlier, store⟩ : Session T) d files).1 = .error e)) ∧
    (g.needsSupport = false → ∀ other elsewhere,
      (g.run (⟨g.heldTemplate earlier, other⟩ : Session T) elsewhere files).1 =
        (g.run (⟨g.heldTemplate earlier, store⟩ : Session T) d files).1) :=
  ⟨fun _ => g.run_error_iff, fun _ _ _ => g.run_error_same_marked, g.run_unneeded⟩

/-- A generator of one file for each service whose template uses a name that there is none of. -/
def lacking : Generator where
  target := Target.kotlin
  options := { language := "kotlin", granularity := some .perService }
  template := some "\x7b\x7b service.name \x7d\x7d"

/-- Two schema files with a service each, of which output is wanted for the second one. -/
def echoes : List SchemaFile :=
  [⟨"a.proto", "a", false, [], [], [⟨"Silent", "a.Silent", []⟩]⟩,
    ⟨"b.proto", "b", true, [], [], [⟨"Echo", "b.Echo", []⟩]⟩]

/-- The failure of the service of the marked file. -/
def echoFailure : RunError :=
  .file (.render ⟨"b.proto", some "Echo", .render Target.kotlin.templateName (.undefined "service")⟩)

/-- A run fails on the service of the file that is marked, and so it does without the other file and
with other support files. -/
theorem run_failure_of_one_more :
    lacking.RunFailure (T := List Template.Node) swiftRead .empty echoes echoFailure ∧
    marked (echoes.drop 1) = marked echoes ∧
    (lacking.run ⟨lacking.heldTemplate [], swiftRead⟩ .empty (echoes.drop 1)).1 =
      .error echoFailure ∧
    lacking.needsSupport = false ∧
    (lacking.run ⟨lacking.heldTemplate [], SupportStore.builtin⟩ SupportStore.builtinDisk echoes).1 =
      .error echoFailure := by
  have failed : (lacking.run ⟨lacking.heldTemplate [], swiftRead⟩ .empty echoes).1 =
      .error echoFailure := error?_iff.mp (by decide +kernel)
  have same : marked (echoes.drop 1) = marked echoes := rfl
  have unneeded : lacking.needsSupport = false := rfl
  obtain ⟨causes, marks, supports⟩ :=
    run_failure (T := List Template.Node) lacking [] swiftRead .empty echoes
  have elsewhere := supports unneeded SupportStore.builtin SupportStore.builtinDisk
  exact ⟨(causes echoFailure).mp failed, same, (marks [] _ echoFailure same).mpr failed, unneeded,
    elsewhere.trans failed⟩

/-- A generator whose template goes through the depth of a file as if that had items. -/
def counting : Generator where
  target := Target.swift
  options := {}
  template := some "\x7b% for x in file.depth %\x7d\x7b% endfor %\x7d"

def numbered : Generator where
  target := Target.swift
  options := { language := "swift", runtimeOutput := .int 5 }

/-- Two runs that break down. The template of the first one can be read and fails on the first file,
with an error that names no file. In the second one the template and the support file can be read
and there is no schema file to fail, but the support file is named by a number. -/
theorem run_breakdowns :
    (counting.run ⟨none, SupportStore.builtin⟩ SupportStore.builtinDisk oneOfTwo).1 =
      .error (.file (.broken (.notIterable "int"))) ∧
    (∃ template, numbered.loadTemplate = .ok template) ∧
    (∃ content, (SupportStore.builtin.read SupportStore.builtinDisk "kalam.swift").1 =
      .ok content) ∧
    (numbered.run ⟨none, SupportStore.builtin⟩ SupportStore.builtinDisk []).1 =
      .error (.listing (.notJoinable 0 "int")) := by
  have rendering : (counting.run ⟨none, SupportStore.builtin⟩ SupportStore.builtinDisk oneOfTwo).1 =
      .error (.file (.broken (.notIterable "int"))) := error?_iff.mp (by decide +kernel)
  obtain ⟨nodes, read, -⟩ := Target.load_of_accepts Target.swift_accepts Target.swift.templateName
  have loaded : numbered.loadTemplate = .ok ⟨Target.swift.templateName, nodes⟩ := read
  have named : numbered.supportName = .int 5 := rfl
  have member : ⟨"kalam.swift", Target.swiftRuntime⟩ ∈ SupportStore.builtinFiles :=
    SupportStore.builtinFiles_eq ▸ List.mem_cons_self
  have read := SupportStore.read_builtin member
  have failure : numbered.RunFailure SupportStore.builtin SupportStore.builtinDisk []
      (.listing (.notJoinable ([] : List (List OutputFile)).flatten.length
        numbered.supportName.typeName)) :=
    .listing loaded .nil rfl rfl read (named ▸ nofun)
  rw [named] at failure
  have failed : (numbered.run ⟨numbered.heldTemplate [], SupportStore.builtin⟩
      SupportStore.builtinDisk []).1 = .error (.listing (.notJoinable 0 "int")) :=
    numbered.run_error_iff.mpr failure
  exact ⟨rendering, ⟨_, loaded⟩, ⟨_, read⟩, failed⟩

end Generator

end RpcBindings
