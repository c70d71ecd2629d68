import RpcBindings.Proofs.Run.Loop

/-! What a run that returns has put into its output: the files generated from each marked schema
file, one slice behind the other in the order of the schema files, and the support file last. -/
namespace RpcBindings.Generator

open Outcome Schema

variable (g : Generator) {T : Type} [Template.Engine T]

/-- The last output of a run: the support file, if the run needs one, with the content that is read
for it and under the name that the options and the language give it. -/
structure Bundled (store : SupportStore) (d : Disk) (last : Option OutputFile) : Prop where
  present_iff : last.isSome = true ↔ g.needsSupport = true
  copied : ∀ file ∈ last, ∃ asset, g.target.support = some asset ∧
    (store.read d asset.name).1 = .ok file.content ∧ g.supportName = .text file.name

theorem lastOutput_ok_iff {before : Nat} {copy : SupportCopy} {file : OutputFile} :
    lastOutput before copy = .ok file ↔ copy.name = .text file.name ∧ copy.content = file.content := by
  rcases copy with ⟨name, content⟩
  rcases file with ⟨fileName, fileContent⟩
  cases name <;> simp [lastOutput]

theorem conclude_ok_iff {p : Progress} {copy : Option SupportCopy} {result : RunResult} :
    g.conclude p copy = .ok result ↔
      ∃ last, copy.mapM (lastOutput p.outputs.length) = .ok last ∧
        result = ⟨p.outputs ++ last.toList, g.summary p⟩ := by
  simp only [conclude, bind_ok_iff, pure_ok, Except.ok.injEq, eq_comm (b := result)]

theorem bundled_of_copy {store : SupportStore} {d : Disk} {before : Nat}
    {copy : Option SupportCopy} {last : Option OutputFile}
    (bundled : (g.bundleSupport store d).1 = .ok copy)
    (listed : copy.mapM (lastOutput before) = .ok last) : g.Bundled store d last := by
  cases needed : g.needsSupport with
  | false =>
    rw [bundleSupport_unneeded g store d needed] at bundled
    cases bundled
    cases listed
    exact ⟨by simp [needed], nofun⟩
  | true =>
    obtain ⟨⟨asset, held⟩, -⟩ := (needsSupport_iff g).mp needed
    rw [bundleSupport_needed g store d needed held, map_ok_iff] at bundled
    obtain ⟨content, read, rfl⟩ := bundled
    obtain ⟨file, named, rfl⟩ := map_ok_iff.mp listed
    obtain ⟨name, rfl⟩ := lastOutput_ok_iff.mp named
    refine ⟨by simp [needed], ?_⟩
    rintro _ ⟨⟩
    exact ⟨asset, held, read, name⟩

theorem summary_support {store : SupportStore} {d : Disk} {last : Option OutputFile} (p : Progress)
    (bundled : g.Bundled store d last) :
    (g.summary p).support = last.elim .null fun file => .text file.name := by
  cases last with
  | none =>
    have unneeded : g.needsSupport = false := by simpa using bundled.present_iff
    simp [summary, unneeded]
  | some file =>
    obtain ⟨-, -, -, name⟩ := bundled.copied file rfl
    have needed : g.needsSupport = true := by simpa using bundled.present_iff
    simp [summary, needed, name]

/-- A run that returns has the outputs of the marked files, each made from that file alone, and then
the support file if it needs one. -/
structure Delivered (store : SupportStore) (d : Disk) (files : List SchemaFile)
    (result : RunResult) (slices : List (List OutputFile)) (last : Option OutputFile) : Prop where
  /-- Each slice is what the template gives for its file. -/
  generated : ∃ template : Template.LoadedBy T, g.loadTemplate = .ok template ∧
    List.Forall₂ (fun f slice => g.generateFile template f = .ok slice) (marked files) slices
  bundled : g.Bundled store d last
  files_eq : result.files = slices.flatten ++ last.toList
  schemaFiles_eq : result.summary.schemaFiles = (marked files).length
  skippedFiles_eq : result.summary.skippedFiles = (unmarked files).length
  support_eq : result.summary.support = last.elim .null fun file => .text file.name

theorem run_ok_iff {earlier : List Call} {store : SupportStore} {d : Disk} {files : List SchemaFile}
    {result : RunResult} :
    (g.run (⟨g.heldTemplate earlier, store⟩ : Session T) d files).1 = .ok result ↔
      ∃ template : Template.LoadedBy T, ∃ slices copy, g.loadTemplate = .ok template ∧
        (marked files).mapM (g.generateFile template) = .ok slices ∧
        (g.bundleSupport store d).1 = .ok copy ∧
        g.conclude (({} : Progress).after slices (unmarked files).length) copy = .ok result := by
  simp only [run_eq, bind_ok_iff, mapError_ok_iff, exists_and_left]

theorem delivered_of_run {earlier : List Call} {store : SupportStore} {d : Disk}
    {files : List SchemaFile} {result : RunResult}
    (returned : (g.run (⟨g.heldTemplate earlier, store⟩ : Session T) d files).1 = .ok result) :
    ∃ slices last, g.Delivered (T := T) store d files result slices last := by
  obtain ⟨template, slices, copy, loaded, generated, bundled, concluded⟩ := (run_ok_iff g).mp returned
  obtain ⟨last, listed, rfl⟩ := (conclude_ok_iff g).mp concluded
  have copied := g.bundled_of_copy bundled listed
  have each := mapM_ok_iff.mp generated
  exact ⟨slices, last, {
    generated := ⟨template, loaded, each⟩
    bundled := copied
    files_eq := rfl
    schemaFiles_eq := by simp [summary, Progress.after, each.length_eq]
    skippedFiles_eq := by simp [summary, Progress.after]
    support_eq := g.summary_support _ copied }⟩

/-! ### What the other files have to do with it -/

/-- Whether a copy can be listed has nothing to do with how many outputs come before it. -/
theorem lastOutput_anywhere {before : Nat} {copy : Option SupportCopy} {last : Option OutputFile}
    (listed : copy.mapM (lastOutput before) = .ok last) (elsewhere : Nat) :
    copy.mapM (lastOutput elsewhere) = .ok last := by
  cases copy with
  | none => exact listed
  | some copy =>
    obtain ⟨file, named, rfl⟩ := map_ok_iff.mp listed
    exact map_ok_iff.mpr ⟨file, lastOutput_ok_iff.mpr (lastOutput_ok_iff.mp named), rfl⟩

/-- A copy that can be listed is the last output, whatever the run has made before. -/
theorem conclude_of_listed {before : Nat} {copy : Option SupportCopy} {last : Option OutputFile}
    (p : Progress) (listed : copy.mapM (lastOutput before) = .ok last) :
    g.conclude p copy = .ok ⟨p.outputs ++ last.toList, g.summary p⟩ :=
  (conclude_ok_iff g).mpr ⟨last, lastOutput_anywhere listed _, rfl⟩

/-- The outputs of a run that returns, taken apart at one marked file. What stands before and behind
the slice of that file stays when the file is replaced by another one that can be generated. -/
theorem run_around {earlier later : List Call} {store : SupportStore} {d : Disk}
    {before after : List SchemaFile} {f : SchemaFile} {result : RunResult}
    (wanted : f.generate = true)
    (returned : (g.run (⟨g.heldTemplate earlier, store⟩ : Session T) d (before ++ f :: after)).1 =
      .ok result) :
    ∃ template : Template.LoadedBy T, ∃ front slice back, g.loadTemplate = .ok template ∧
      g.generateFile template f = .ok slice ∧ result.files = front ++ slice ++ back ∧
      ∀ replacement other, replacement.generate = true →
        g.generateFile template replacement = .ok other →
        ∃ changed,
          (g.run (⟨g.heldTemplate later, store⟩ : Session T) d (before ++ replacement :: after)).1 =
              .ok changed ∧
            changed.files = front ++ other ++ back := by
  obtain ⟨template, slices, copy, loaded, generated, bundled, concluded⟩ := (run_ok_iff g).mp returned
  obtain ⟨last, listed, rfl⟩ := (conclude_ok_iff g).mp concluded
  rw [marked_append, marked_cons_marked after wanted, mapM_append_cons_ok_iff] at generated
  obtain ⟨front, slice, back, fronts, here, backs, rfl⟩ := generated
  refine ⟨template, front.flatten, slice, back.flatten ++ last.toList, loaded, here, ?_, ?_⟩
  · simp [Progress.after]
  · intro replacement other marking replaced
    have generated : (marked (before ++ replacement :: after)).mapM (g.generateFile template) =
        .ok (front ++ other :: back) := by
      rw [marked_append, marked_cons_marked after marking, mapM_append_cons_ok_iff]
      exact ⟨front, other, back, fronts, replaced, backs, rfl⟩
    -- The number of outputs may have changed, which is nothing to the support file.
    have concluded := g.conclude_of_listed (({} : Progress).after (front ++ other :: back)
      (unmarked (before ++ replacement :: after)).length) listed
    refine ⟨_, (run_ok_iff g).mpr ⟨template, _, copy, loaded, generated, bundled, concluded⟩, ?_⟩
    simp [Progress.after]

/-- Files that no output is wanted for play no part: with the same marked files a run returns the
same outputs. -/
theorem run_same_marked {earlier later : List Call} {store : SupportStore} {d : Disk}
    {files others : List SchemaFile} {result : RunResult} (same : marked others = marked files)
    (returned : (g.run (⟨g.heldTemplate earlier, store⟩ : Session T) d files).1 = .ok result) :
    ∃ other, (g.run (⟨g.heldTemplate later, store⟩ : Session T) d others).1 = .ok other ∧
      other.files = result.files := by
  obtain ⟨template, slices, copy, loaded, generated, bundled, concluded⟩ := (run_ok_iff g).mp returned
  obtain ⟨last, listed, rfl⟩ := (conclude_ok_iff g).mp concluded
  rw [← same] at generated
  have concluded := g.conclude_of_listed (({} : Progress).after slices (unmarked others).length) listed
  exact ⟨_, (run_ok_iff g).mpr ⟨template, slices, copy, loaded, generated, bundled, concluded⟩, rfl⟩

/-- Whatever engine fills in the templates and whatever runs came before, the output of a run that
returns is what each marked file gives by itself, in order, and the support file last if it is needed.
So it is the same for other files with the same ones marked, and a marked file that is replaced changes
its own slice alone. -/
theorem run_output (earlier : List Call) (store : SupportStore) (d : Disk) (files : List SchemaFile)
    (result : RunResult)
    (returned : (g.run (⟨g.heldTemplate earlier, store⟩ : Session T) d files).1 = .ok result) :
    (∃ slices last, g.Delivered (T := T) store d files result slices last) ∧
    (∀ later others, marked others = marked files →
      ∃ other, (g.run (⟨g.heldTemplate later, store⟩ : Session T) d others).1 = .ok other ∧
        other.files = result.files) ∧
    (∀ later before f after, files = before ++ f :: after → f.generate = true →
      ∃ template : Template.LoadedBy T, ∃ front slice back, g.loadTemplate = .ok template ∧
        g.generateFile template f = .ok slice ∧ result.files = front ++ slice ++ back ∧
        ∀ replacement other, replacement.generate = true →
          g.generateFile template replacement = .ok other →
          ∃ changed,
            (g.run (⟨g.heldTemplate later, store⟩ : Session T) d (before ++ replacement :: after)).1 =
                .ok changed ∧
              changed.files = front ++ other ++ back) := by
  refine ⟨g.delivered_of_run returned, ?_, ?_⟩
  · intro later others same
    exact g.run_same_marked same returned
  · rintro later before f after rfl wanted
    exact g.run_around wanted returned

/-- A generator whose files name their schema file and nothing else. -/
def naming : Generator where
  target := Target.swift
  options := {}
  template := some "source: \x7b\x7b file.file_name \x7d\x7d"

/-- Two schema files of which output is wanted for the first one. -/
def oneOfTwo : List SchemaFile :=
  [⟨"a.proto", "a", true, [], [], []⟩, ⟨"b.proto", "b", false, [], [], []⟩]

/-- A store that has read the support file of Swift before. -/
def swiftRead : SupportStore := ⟨⟨"", []⟩, [("kalam.swift", "import Foundation\n".toUTF8)]⟩

theorem run_output_one_of_two : ∃ result,
    (naming.run ⟨naming.heldTemplate [], swiftRead⟩ SupportStore.builtinDisk oneOfTwo).1 =
      .ok result ∧
    result.summary.schemaFiles = 1 ∧ result.summary.skippedFiles = 1 := by
  have fine : (naming.run ⟨naming.heldTemplate [], swiftRead⟩ SupportStore.builtinDisk
      oneOfTwo).1.isOk = true := by decide +kernel
  obtain ⟨result, returned⟩ := exists_of_isOk fine
  obtain ⟨⟨slices, last, delivered⟩, -⟩ := run_output naming [] swiftRead _ oneOfTwo result returned
  exact ⟨result, returned, delivered.schemaFiles_eq, delivered.skippedFiles_eq⟩

end RpcBindings.Generator
