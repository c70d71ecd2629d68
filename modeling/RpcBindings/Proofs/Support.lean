import RpcBindings.Proofs.Disk.Place
import RpcBindings.Support

/-! How support files are read: a file that has been read before is not looked for again, and else the
disk decides. Those that come with the languages can be read. -/
namespace RpcBindings.SupportStore

/-- The path of a support file. -/
def pathOf (directory : Path) (file : String) : Path := directory.join (Path.ofString file)

variable {s : SupportStore} {d : Disk} {file : String}

theorem read_of_lookup {content : ByteArray} (held : s.contents.lookup file = some content)
    (d : Disk) : s.read d file = (.ok content, s) := by
  simp only [read, held]

/-- A file that is read for the first time is kept. -/
theorem read_of_look {content : ByteArray} (new : s.contents.lookup file = none)
    (seen : d.look (pathOf s.directory file) = .ok content) :
    s.read d file = (.ok content, { s with contents := (file, content) :: s.contents }) := by
  rw [pathOf] at seen
  simp only [read, new, Disk.read, seen, Except.mapError]

theorem read_of_located {place : List String} {content : ByteArray}
    (new : s.contents.lookup file = none) (located : d.locate (pathOf s.directory file) = .ok place)
    (below : place.isEmpty = false) (held : d.entries.lookup place = some (.file content)) :
    (s.read d file).1 = .ok content := by
  rw [read_of_look new (Disk.look_of_located located below held)]

/-- A file that the disk does not give leaves the store as it is. -/
theorem read_of_fault {error : DiskError} (new : s.contents.lookup file = none)
    (refused : d.look (pathOf s.directory file) = .error error) :
    s.read d file =
      (.error ⟨file, s.directory, ⟨error, pathOf s.directory file⟩, s.available d⟩, s) := by
  rw [pathOf] at refused ⊢
  simp only [read, new, Disk.read, refused, Except.mapError]

/-- A support file cannot be read if it has not been read before and the disk refuses it now. -/
theorem read_error_iff {cause : SupportError} :
    (s.read d file).1 = .error cause ↔ s.contents.lookup file = none ∧
      ∃ fault, d.read (s.directory.join (Path.ofString file)) = .error fault ∧
        cause = ⟨file, s.directory, fault, s.available d⟩ := by
  cases held : s.contents.lookup file with
  | some content => simp [read, held]
  | none =>
    cases reading : d.read (s.directory.join (Path.ofString file)) with
    | ok content => simp [read, held, reading]
    | error fault => simp [read, held, reading, eq_comm]

/-! ### The support files of the languages -/

theorem builtinFiles_eq : builtinFiles =
    [⟨"kalam.swift", Target.swiftRuntime⟩, ⟨"kalam.dart", Target.dartRuntime⟩] := rfl

/-- Each support file that comes with the languages is read as it is. -/
theorem read_builtin {asset : SupportFile} (member : asset ∈ builtinFiles) :
    (builtin.read builtinDisk asset.name).1 = .ok asset.text.toUTF8 := by
  simp only [builtinFiles_eq, List.mem_cons, List.not_mem_nil, or_false] at member
  rcases member with rfl | rfl
  · have located : builtinDisk.locate (pathOf builtinDirectory "kalam.swift") =
        .ok ["runtime", "kalam.swift"] := by
      rw [Disk.locate_eq_follow _ (by decide +kernel) (by decide +kernel)]
      rfl
    exact read_of_located rfl located rfl rfl
  · have located : builtinDisk.locate (pathOf builtinDirectory "kalam.dart") =
        .ok ["runtime", "kalam.dart"] := by
      rw [Disk.locate_eq_follow _ (by decide +kernel) (by decide +kernel)]
      rfl
    exact read_of_located rfl located rfl rfl

end RpcBindings.SupportStore
