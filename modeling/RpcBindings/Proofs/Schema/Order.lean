import Mathlib.Logic.Relation
import RpcBindings.Proofs.Schema.Declared

/-! The order in which files are linked. A file joins a pool under a name of its own and only after
all files that it depends on, so no chain of dependencies comes back to where it starts: every file
can be reached, along such a chain, from one that nothing depends on. -/
namespace RpcBindings.Schema

open Outcome
open Text (Raw)

/-- Whether a file of a row depends on another, by their names. -/
def Imports (row : List FileDescriptor) (importer imported : Raw) : Prop :=
  ∃ f ∈ row, f.path = importer ∧ imported ∈ f.dependencies

/-- A row of files, each with a name of its own and behind all that it depends on. -/
inductive Ordered : List FileDescriptor → Prop where
  | nil : Ordered []
  | snoc {row f} (before : Ordered row) (fresh : ∀ g ∈ row, g.path ≠ f.path)
      (depends : ∀ name ∈ f.dependencies, ∃ g ∈ row, g.path = name) : Ordered (row ++ [f])

theorem Imports.mono {row more : List FileDescriptor} (subset : row ⊆ more) {importer imported : Raw}
    (imports : Imports row importer imported) : Imports more importer imported := by
  obtain ⟨f, member, name, listed⟩ := imports
  exact ⟨f, subset member, name, listed⟩

/-- What a file of such a row depends on is in the row. -/
theorem Ordered.depends {row : List FileDescriptor} (ordered : Ordered row) :
    ∀ f ∈ row, ∀ name ∈ f.dependencies, ∃ g ∈ row, g.path = name := by
  induction ordered with
  | nil =>
    intro f member
    cases member
  | @snoc row f _ _ here ih =>
    intro h member name listed
    have found : ∃ g ∈ row, g.path = name := by
      rcases List.mem_append.mp member with old | new
      · exact ih h old name listed
      · rw [List.mem_singleton.mp new] at listed
        exact here name listed
    obtain ⟨g, earlier, same⟩ := found
    exact ⟨g, List.mem_append_left _ earlier, same⟩

/-- Whether a name is what is left of it before its first NUL. -/
def Readable (name : Raw) : Prop := name.beforeNul = name

/-- A name that can be read is a text. -/
theorem Readable.eq_text {name : Raw} (readable : Readable name) (faultless : name.fault? = none) :
    name = .text name.shown := by
  cases name with
  | text s => rfl
  | bytes b =>
    unfold Readable Raw.beforeNul Raw.ofBytes at readable
    split at readable
    · cases readable
    case h_2 fault undecodable =>
      rw [Raw.bytes.inj readable] at undecodable
      simp [Raw.fault?, undecodable] at faultless

/-- What holds of a pool: its files stand in the order of their dependencies, under readable names. -/
structure Pool.Orderly (p : Pool) : Prop where
  ordered : Ordered (p.files.map (·.1))
  named : ∀ entry ∈ p.files, Readable entry.1.path ∧ entry.2.name = entry.1.path.shown

theorem Pool.orderly_empty : ({} : Pool).Orderly where
  ordered := .nil
  named := by simp

theorem Pool.mem_of_file? {p : Pool} {name : Raw} {entry : FileDescriptor × SchemaFile}
    (found : p.file? name = some entry) : entry ∈ p.files ∧ entry.1.path = name :=
  ⟨List.mem_of_find?_eq_some found, by simpa using List.find?_some found⟩

theorem Pool.ne_of_absent {p : Pool} {name : Raw} (absent : p.file? name = none) :
    ∀ entry ∈ p.files, entry.1.path ≠ name := by
  simpa [file?] using absent

theorem Pool.checkDependencies_ok {p : Pool} {f : FileDescriptor}
    (checked : p.checkDependencies f = .ok ()) :
    ∀ name ∈ f.dependencies, ∃ entry ∈ p.files, entry.1.path = name := by
  obtain ⟨⟨⟩, each, -⟩ := bind_ok_iff.mp checked
  intro name member
  have here := forM_ok each name member
  cases found : p.file? name with
  | none => simp [found] at here
  | some entry => exact ⟨entry, mem_of_file? found⟩

theorem FileDescriptor.checkedDialect_readable {f : FileDescriptor} {dialect : Dialect}
    (usable : f.checkedDialect = .ok dialect) : Readable f.path := by
  by_contra broken
  have faulty : f.path.beforeNul ≠ f.path := broken
  unfold checkedDialect at usable
  dsimp only at usable
  rw [if_pos faulty] at usable
  cases usable

/-- The entry of a pool that a linked descriptor stands for. -/
def Pool.Stands (p : Pool) (f : FileDescriptor) (file : SchemaFile) : Prop :=
  ∃ known, (known, file) ∈ p.files ∧ known.path = f.path ∧ known.dependencies = f.dependencies

theorem FileDescriptor.same_place {f g : FileDescriptor} (same : f.same g = true) :
    f.path = g.path ∧ f.dependencies = g.dependencies := by
  simp only [FileDescriptor.same, Bool.and_eq_true, beq_iff_eq] at same
  obtain ⟨⟨⟨⟨⟨⟨⟨⟨⟨⟨⟨⟨⟨name, -⟩, dependencies⟩, -⟩, -⟩, -⟩, -⟩, -⟩, -⟩, -⟩, -⟩, -⟩, -⟩, -⟩ := same
  exact ⟨by rw [path, path, name], dependencies⟩

theorem Pool.Orderly.link {p next : Pool} {f : FileDescriptor} {file : SchemaFile}
    (orderly : p.Orderly) (linked : p.link f = .ok (file, next)) :
    next.Orderly ∧ next.Stands f file ∧ p.files ⊆ next.files ∧
      ∀ entry ∈ next.files, entry ∈ p.files ∨
        entry.1.path = f.path ∧ entry.1.dependencies = f.dependencies := by
  cases Pool.link_step linked with
  | known held same =>
    obtain ⟨path, dependencies⟩ := FileDescriptor.same_place same
    exact ⟨orderly, ⟨_, (mem_of_file? held).1, path, dependencies⟩, fun _ member => member,
      fun _ member => .inl member⟩
  | @new dialect _ _ _ _ _ _ absent usable depends =>
    have scope : (f.context dialect).file = f.path.shown := Context.under_file _ _
    refine ⟨⟨?_, ?_⟩, ⟨_, List.mem_append_right _ List.mem_cons_self, rfl, rfl⟩,
      List.subset_append_left _ _, ?_⟩
    · rw [List.map_append]
      refine .snoc orderly.ordered ?_ ?_
      · intro g member
        obtain ⟨entry, listed, rfl⟩ := List.mem_map.mp member
        exact ne_of_absent absent entry listed
      · intro name member
        obtain ⟨entry, listed, same⟩ := checkDependencies_ok depends name member
        exact ⟨entry.1, List.mem_map_of_mem listed, same⟩
    · intro entry member
      rcases List.mem_append.mp member with old | new
      · exact orderly.named entry old
      · cases List.mem_singleton.mp new
        have readable : Readable f.path := FileDescriptor.checkedDialect_readable usable
        exact ⟨readable, scope⟩
    · intro entry member
      rcases List.mem_append.mp member with old | new
      · exact .inl old
      · cases List.mem_singleton.mp new
        exact .inr ⟨rfl, rfl⟩

/-- Files that are linked one after the other end up in an orderly pool, which holds nothing else but
what was there before. -/
theorem Pool.Orderly.linkAll {p : Pool} {descriptors : List FileDescriptor} {files : List SchemaFile}
    (orderly : p.Orderly) (linked : linkAll p descriptors = .ok files) :
    ∃ last : Pool, last.Orderly ∧ p.files ⊆ last.files ∧
      List.Forall₂ last.Stands descriptors files ∧
      ∀ entry ∈ last.files, entry ∈ p.files ∨
        ∃ f ∈ descriptors, entry.1.path = f.path ∧ entry.1.dependencies = f.dependencies := by
  induction descriptors generalizing p files with
  | nil =>
    cases linked
    exact ⟨p, orderly, fun _ member => member, .nil, fun _ member => .inl member⟩
  | cons f rest ih =>
    obtain ⟨file, next, later, here, done, rfl⟩ := linkAll_cons_ok linked
    obtain ⟨further, ⟨known, listed, place⟩, grown, only⟩ := orderly.link here
    obtain ⟨last, final, more, stands, all⟩ := ih further done
    refine ⟨last, final, fun entry member => more (grown member), .cons ⟨known, more listed, place⟩ stands, ?_⟩
    intro entry member
    rcases all entry member with held | ⟨g, listed, same⟩
    · rcases only entry held with old | same
      · exact .inl old
      · exact .inr ⟨f, List.mem_cons_self, same⟩
    · exact .inr ⟨g, List.mem_cons_of_mem _ listed, same⟩

end RpcBindings.Schema
