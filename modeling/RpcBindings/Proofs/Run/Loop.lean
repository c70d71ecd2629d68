import Mathlib.Data.List.Induction
import RpcBindings.Generator
import RpcBindings.Proofs.Outcome

/-! One run as the steps it is made of: the template, the loop over the schema files, the support
file, the result. What a generator keeps from earlier runs makes no difference to any of them. -/
namespace RpcBindings

open Outcome Schema

/-- The files that output is wanted for, in order. -/
def marked (files : List SchemaFile) : List SchemaFile := files.filter (·.generate)

/-- The files that no output is wanted for, in order. -/
def unmarked (files : List SchemaFile) : List SchemaFile := files.filter (!·.generate)

@[simp] theorem marked_cons_marked {f : SchemaFile} (files) (wanted : f.generate = true) :
    marked (f :: files) = f :: marked files := by
  simp [marked, wanted]

@[simp] theorem marked_cons_unmarked {f : SchemaFile} (files) (unwanted : f.generate = false) :
    marked (f :: files) = marked files := by
  simp [marked, unwanted]

@[simp] theorem unmarked_cons_marked {f : SchemaFile} (files) (wanted : f.generate = true) :
    unmarked (f :: files) = unmarked files := by
  simp [unmarked, wanted]

@[simp] theorem unmarked_cons_unmarked {f : SchemaFile} (files) (unwanted : f.generate = false) :
    unmarked (f :: files) = f :: unmarked files := by
  simp [unmarked, unwanted]

@[simp] theorem marked_append (before after : List SchemaFile) :
    marked (before ++ after) = marked before ++ marked after := by
  simp [marked]

/-- How far a run has come once it has added the outputs of some files and skipped some others. -/
def Progress.after (p : Progress) (slices : List (List OutputFile)) (skipped : Nat) : Progress where
  outputs := p.outputs ++ slices.flatten
  generated := p.generated + slices.length
  skipped := p.skipped + skipped

namespace Generator

variable (g : Generator) {T : Type} [Template.Engine T] (template : Template.LoadedBy T)

theorem visit_marked (p : Progress) {f : SchemaFile} (wanted : f.generate = true) :
    g.visit template p f = (g.generateFile template f).map fun slice => p.after [slice] 0 := by
  cases generated : g.generateFile template f <;>
    simp [visit, wanted, generated, Progress.after]

theorem visit_unmarked (p : Progress) {f : SchemaFile} (unwanted : f.generate = false) :
    g.visit template p f = .ok (p.after [] 1) := by
  simp [visit, unwanted, Progress.after]

/-- The loop adds the outputs of the marked files, one slice for each in their order, and counts the
other files. It fails as the first marked file does that fails. -/
theorem visits_eq (files : List SchemaFile) (p : Progress) :
    files.foldlM (g.visit template) p =
      ((marked files).mapM (g.generateFile template)).map
        fun slices => p.after slices (unmarked files).length := by
  -- Each file adds to whatever the files before it have left, so the progress is arbitrary.
  induction files generalizing p with
  | nil => simp [marked, unmarked, Progress.after]
  | cons f files ih =>
    rw [List.foldlM_cons]
    cases flag : f.generate with
    | false =>
      rw [visit_unmarked g template p flag, ok_bind, ih, marked_cons_unmarked files flag,
        unmarked_cons_unmarked files flag]
      simp only [Progress.after, List.flatten_nil, List.append_nil, List.length_nil,
        List.length_cons, Nat.add_zero, Nat.add_assoc, Nat.add_comm 1]
    | true =>
      rw [visit_marked g template p flag, marked_cons_marked files flag,
        unmarked_cons_marked files flag, List.mapM_cons]
      cases generated : g.generateFile template f with
      | error fault => rfl
      | ok slice =>
        simp only [map_ok, ok_bind, ih]
        cases rest : (marked files).mapM (g.generateFile template) with
        | error fault => rfl
        | ok slices =>
          simp only [ok_bind, pure_ok, map_ok, Progress.after, List.flatten_cons, List.flatten_nil,
            List.append_nil, List.append_assoc, List.length_cons, List.length_nil, Nat.add_zero,
            Nat.zero_add, Nat.add_assoc, Nat.add_comm slices.length]

/-! ### The support file -/

theorem needsSupport_iff : g.needsSupport = true ↔
    (∃ asset, g.target.support = some asset) ∧ g.options.bundleRuntime = true := by
  simp [needsSupport, Option.isSome_iff_exists]

theorem supportName_of_support {asset : SupportFile} (held : g.target.support = some asset) :
    g.supportName =
      if g.options.runtimeOutput.truthy then g.options.runtimeOutput else .text asset.name := by
  simp [supportName, held]

theorem bundle_name {asset : SupportFile} (held : g.target.support = some asset) :
    (if g.supportName.truthy then g.supportName else .text asset.name) = g.supportName := by
  rw [supportName_of_support g held]
  by_cases named : g.options.runtimeOutput.truthy = true
  · simp [named]
  · simp [named]

theorem bundleSupport_unneeded (store : SupportStore) (d : Disk) (unneeded : g.needsSupport = false) :
    (g.bundleSupport store d).1 = .ok none := by
  cases held : g.target.support <;> simp [bundleSupport, held, unneeded]

theorem bundleSupport_needed (store : SupportStore) (d : Disk) {asset : SupportFile}
    (needed : g.needsSupport = true) (held : g.target.support = some asset) :
    (g.bundleSupport store d).1 =
      (store.read d asset.name).1.map fun content => some ⟨g.supportName, content⟩ := by
  simp only [bundleSupport, held, needed, if_true, SupportStore.bundle]
  rcases reading : store.read d asset.name with ⟨content | cause, store⟩
  · simp
  · simp [bundle_name g held]

/-! ### What a generator keeps between runs -/

/-- One run: the support files that have been read, the disk, and the schema files. -/
structure Call where
  store : SupportStore
  disk : Disk
  files : List SchemaFile

/-- The template that a generator holds after some runs, whatever happened to the support files
between them. -/
def heldTemplate (earlier : List Call) : Option (Template.LoadedBy T) :=
  earlier.foldl (fun held call => (g.run ⟨held, call.store⟩ call.disk call.files).2.template) none

/-- A run leaves the template as it is or holds the one that it has read. -/
theorem run_template (s : Session T) (d : Disk) (files : List SchemaFile) :
    (g.run s d files).2.template = s.template ∨
      ∃ template, g.acquire s = .ok template ∧ (g.run s d files).2.template = some template := by
  unfold run
  cases acquired : g.acquire s with
  | error cause => exact .inl rfl
  | ok template =>
    refine .inr ⟨template, rfl, ?_⟩
    dsimp only
    cases files.foldlM (g.visit template) {} with
    | error fault => rfl
    | ok progress => rcases g.bundleSupport s.store d with ⟨_ | _, _⟩ <;> rfl

/-- After any runs the template that is held, if there is one, is the one that would be read. -/
theorem heldTemplate_eq (earlier : List Call) {template : Template.LoadedBy T}
    (held : g.heldTemplate earlier = some template) : g.loadTemplate = .ok template := by
  -- The last run decides: either it kept what it found or it read the template itself.
  induction earlier using List.reverseRecOn generalizing template with
  | nil => cases held
  | append_singleton earlier call ih =>
    rw [heldTemplate, List.foldl_append, List.foldl_cons, List.foldl_nil] at held
    rcases g.run_template (⟨g.heldTemplate earlier, call.store⟩ : Session T) call.disk call.files with
      same | ⟨read, acquired, now⟩
    · exact ih (same.symm.trans held)
    · cases now.symm.trans held
      rw [acquire] at acquired
      cases before : g.heldTemplate (T := T) earlier with
      | none => simpa [before] using acquired
      | some kept =>
        rw [before] at acquired
        cases acquired
        exact ih before

theorem acquire_held (earlier : List Call) (store : SupportStore) :
    g.acquire (⟨g.heldTemplate earlier, store⟩ : Session T) = g.loadTemplate := by
  rw [acquire]
  cases held : g.heldTemplate (T := T) earlier with
  | none => rfl
  | some template => exact (g.heldTemplate_eq earlier held).symm

/-! ### The steps of a run -/

/-- The result of a run, after any runs of the same generator: each step in its order, and the first
that fails ends it. -/
theorem run_eq (earlier : List Call) (store : SupportStore) (d : Disk) (files : List SchemaFile) :
    (g.run (⟨g.heldTemplate earlier, store⟩ : Session T) d files).1 = (do
      let template ← (g.loadTemplate (T := T)).mapError RunError.template
      let slices ← ((marked files).mapM (g.generateFile template)).mapError RunError.file
      let copy ← (g.bundleSupport store d).1.mapError RunError.support
      let progress := ({} : Progress).after slices (unmarked files).length
      (g.conclude progress copy).mapError RunError.listing) := by
  unfold run
  rw [acquire_held]
  cases g.loadTemplate (T := T) with
  | error cause => rfl
  | ok template =>
    simp only [visits_eq, mapError_ok, ok_bind]
    cases (marked files).mapM (g.generateFile template) with
    | error fault => rfl
    | ok slices =>
      simp only [map_ok]
      rcases g.bundleSupport store d with ⟨_ | _, _⟩ <;> rfl

end Generator

end RpcBindings
