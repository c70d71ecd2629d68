import RpcBindings.Proofs.Disk.Place
import RpcBindings.Proofs.Entries

/-! What files that are stored make of a disk. It grows by the missing directories above them and by
the files themselves; of two files at one place the later one stands there in the end, and no other
place changes. Storing that fails has stored the files before the one that it fails on, and has made
the directories on the way to that one up to some station. -/
namespace RpcBindings.Disk

/-- What stands at a place once directories have been made at some places and files written at others;
of two files at one place the first one in the row counts. -/
def after (d : Disk) (made : List (List String)) (written : List (List String × ByteArray))
    (place : List String) : Option Node :=
  match written.lookup place with
  | some content => some (.file content)
  | none => if place ∈ made then some .directory else d.node? place

/-- How a disk has grown into another one: by directories, each at a place where there was nothing or
a directory already, and by files, none of them in the place of a directory. -/
structure Grown (d : Disk) (made : List (List String)) (written : List (List String × ByteArray))
    (e : Disk) : Prop where
  working : e.working = d.working
  node? : ∀ place, e.node? place = d.after made written place
  directory : ∀ place ∈ made, e.node? place = some .directory ∧
    (d.node? place = none ∨ d.node? place = some .directory)
  file : ∀ entry ∈ written, d.node? entry.1 ≠ some .directory

section

variable {d e f : Disk} {p : Path}

namespace Grown

variable {made made' : List (List String)} {written written' : List (List String × ByteArray)}

theorem refl (d : Disk) : Grown d [] [] d where
  working := rfl
  node? _ := rfl
  directory := nofun
  file := nofun

/-- A disk on which the directories are there already has grown by them. -/
theorem of_directories (there : ∀ place ∈ made, d.node? place = some .directory) :
    Grown d made [] d where
  working := rfl
  node? place := by
    by_cases member : place ∈ made
    · simp [after, member, there place member]
    · simp [after, member]
  directory place member := ⟨there place member, .inr (there place member)⟩
  file := nofun

/-- Only which directories are made counts, not their order. -/
theorem congr (grown : Grown d made written e) (same : ∀ place, place ∈ made' ↔ place ∈ made) :
    Grown d made' written e where
  working := grown.working
  node? place := by simp only [grown.node? place, after, same]
  directory place member := grown.directory place ((same place).mp member)
  file := grown.file

/-- A place where there was no directory before holds none that was not made. -/
theorem not_directory (grown : Grown d made written e) {place : List String}
    (other : e.node? place ≠ some .directory) : d.node? place ≠ some .directory := by
  intro before
  apply other
  rw [grown.node? place, after]
  cases found : written.lookup place with
  | some content => exact absurd before (grown.file _ (mem_of_lookup found))
  | none => simp only [before, ite_self]

/-- A file that was written is there. -/
theorem written_node? (grown : Grown d made written e) {place : List String} {content : ByteArray}
    (found : written.lookup place = some content) : e.node? place = some (.file content) := by
  rw [grown.node? place, after, found]

theorem trans (first : Grown d made written e) (second : Grown e made' written' f) :
    Grown d (made ++ made') (written' ++ written) f where
  working := second.working.trans first.working
  node? place := by
    rw [second.node? place, after, after, List.lookup_append]
    cases later : written'.lookup place with
    | some content => rfl
    | none =>
      by_cases member : place ∈ made'
      · -- The directory was made where the earlier files had left nothing.
        have none : written.lookup place = none := by
          cases found : written.lookup place with
          | none => rfl
          | some content =>
            have here := first.written_node? found
            rcases (second.directory place member).2 with nothing | directory
            · cases nothing.symm.trans here
            · cases directory.symm.trans here
        simp [none, member]
      · simp [first.node? place, after, member]
  directory place member := by
    rcases List.mem_append.mp member with early | late
    · obtain ⟨here, before⟩ := first.directory place early
      refine ⟨?_, before⟩
      rw [second.node? place, after]
      cases found : written'.lookup place with
      | some content => exact absurd here (second.file _ (mem_of_lookup found))
      | none => simp only [here, ite_self]
    · obtain ⟨here, between⟩ := second.directory place late
      refine ⟨here, ?_⟩
      by_cases early : place ∈ made
      · exact (first.directory place early).2
      · have same := first.node? place
        rw [after] at same
        cases found : written.lookup place with
        | some content =>
          rw [found] at same
          rw [same] at between
          rcases between with nothing | directory
          · cases nothing
          · cases directory
        | none =>
          rw [found] at same
          simp only [if_neg early] at same
          exact same ▸ between
  file entry member := by
    rcases List.mem_append.mp member with late | early
    · exact first.not_directory (second.file entry late)
    · exact first.file entry early

/-- A disk has grown into one that holds the same exactly if the files were there with the same
content and the directories were there. -/
theorem same_iff (grown : Grown d made written e) :
    (∀ place, e.node? place = d.node? place) ↔
      (∀ place content, written.lookup place = some content → d.node? place = some (.file content)) ∧
        ∀ place ∈ made, d.node? place = some .directory := by
  constructor
  · intro same
    refine ⟨fun place content found => ?_, fun place member => ?_⟩
    · rw [← same place, grown.written_node? found]
    · rw [← same place, (grown.directory place member).1]
  · rintro ⟨files, directories⟩ place
    rw [grown.node? place, after]
    cases found : written.lookup place with
    | some content => exact (files place content found).symm
    | none =>
      by_cases member : place ∈ made
      · rw [if_pos member, directories place member]
      · rw [if_neg member]

/-- A place is as it was, or it is one of the directories or one of the files. -/
theorem cases (grown : Grown d made written e) (place : List String) :
    e.node? place = d.node? place ∨ place ∈ made ∧ e.node? place = some .directory ∨
      place ∈ written.map (·.1) := by
  cases found : written.lookup place with
  | some content => exact .inr (.inr (List.mem_map_of_mem (f := (·.1)) (mem_of_lookup found)))
  | none =>
    by_cases member : place ∈ made
    · exact .inr (.inl ⟨member, (grown.directory place member).1⟩)
    · refine .inl ?_
      rw [grown.node? place, after, found]
      exact if_neg member

end Grown

/-! ### Making directories -/

/-- A directory that is ensured is there in the end, as are those on the way to it. -/
theorem ensureDirectory_ok (ensured : d.ensureDirectory p = .ok e) :
    Grown d (d.stations p) [] e := by
  unfold ensureDirectory at ensured
  split at ensured
  next made done =>
    cases ensured
    obtain ⟨located, free, rfl⟩ := makeDirectory_ok done
    have other : d.node? (d.destination p) ≠ some .directory := by simp [free]
    have below := ne_nil_of_node? other
    have before (place) (station : place ∈ d.stations p) :
        d.node? place = none ∨ d.node? place = some .directory := by
      rcases directory_of_locate located station with rfl | left
      · exact .inl free
      · exact .inr left
    have now (place) (station : place ∈ d.stations p) :
        (d.put (d.destination p) .directory).node? place = some .directory := by
      rw [node?_put d below]
      rcases directory_of_locate located station with rfl | left
      · exact if_pos rfl
      · rw [left, ite_self]
    refine ⟨rfl, fun place => ?_, fun place station => ⟨now place station, before place station⟩, nofun⟩
    by_cases station : place ∈ d.stations p
    · simp [after, station, now place station]
    · have other : place ≠ d.destination p := fun same => station (same ▸ destination_mem_stations)
      simp [after, station, node?_put d below, other]
  next fault refused =>
    split at ensured
    case isTrue there =>
      cases ensured
      obtain ⟨found, located, held⟩ := isDirectory_iff.mp there
      obtain rfl := locate_ok located
      refine Grown.of_directories fun place station => ?_
      rcases directory_of_locate located station with rfl | left
      · exact held
      · exact left
    case isFalse => cases ensured

theorem ensureDirectory_of_isDirectory (there : d.isDirectory p = true) :
    d.ensureDirectory p = .ok d := by
  obtain ⟨place, located, held⟩ := isDirectory_iff.mp there
  have refused : d.makeDirectory p = .error ⟨.occupied, p⟩ := by
    simp only [makeDirectory, located, held]
  simp only [ensureDirectory, refused, there, if_true]

/-- No directory is made where there is one. -/
theorem makeDirectories_of_isDirectory {root : String} {later : List String}
    (there : d.isDirectory ⟨root, later.reverse⟩ = true) :
    d.makeDirectories root later = (.ok (), d) := by
  have known := ensureDirectory_of_isDirectory there
  cases later with
  | nil =>
    rw [List.reverse_nil] at known
    simp only [makeDirectories, known]
  | cons part above => simp only [makeDirectories, known]

/-- Directories are made from the outermost on, up to some station, and up to the last one if nothing
is refused. -/
theorem makeDirectories_grown {root : String} {later : List String} {result : Except DiskFault Unit}
    (run : d.makeDirectories root later = (result, e)) :
    ∃ made, made <+: d.stations ⟨root, later.reverse⟩ ∧ Grown d made [] e ∧
      (result = .ok () → made = d.stations ⟨root, later.reverse⟩) := by
  induction later generalizing result e with
  | nil =>
    rw [makeDirectories] at run
    split at run
    next made ensured =>
      cases run
      exact ⟨_, List.prefix_rfl, ensureDirectory_ok ensured, fun _ => rfl⟩
    next fault refused =>
      cases run
      exact ⟨[], List.nil_prefix, .refl d, nofun⟩
  | cons part above ih =>
    have way : d.stations ⟨root, (part :: above).reverse⟩ =
        d.stations ⟨root, above.reverse⟩ ++ [d.destination ⟨root, (part :: above).reverse⟩] := by
      rw [List.reverse_cons, stations_concat]
    rw [makeDirectories] at run
    split at run
    next made ensured =>
      cases run
      exact ⟨_, List.prefix_rfl, ensureDirectory_ok ensured, fun _ => rfl⟩
    next absent =>
      -- The directory above is missing, so those above are made first.
      cases above_run : d.makeDirectories root above with
      | mk outcome made =>
        obtain ⟨places, start, grown, whole⟩ := ih above_run
        rw [above_run] at run
        cases outcome with
        | error fault =>
          cases run
          exact ⟨places, way ▸ start.trans (List.prefix_append _ _), grown, nofun⟩
        | ok done =>
          obtain rfl := whole rfl
          dsimp only at run
          split at run
          next last ensured =>
            cases run
            refine ⟨_, List.prefix_rfl, ?_, fun _ => rfl⟩
            have more := ensureDirectory_ok ensured
            rw [stations_congr grown.working] at more
            refine (grown.trans more).congr fun place => ?_
            simp only [way, List.mem_append, or_self_left]
          next fault refused =>
            cases run
            exact ⟨_, way ▸ List.prefix_append _ _, grown, nofun⟩
    next fault refused _ =>
      cases run
      exact ⟨[], List.nil_prefix, .refl d, nofun⟩

/-! ### Storing files -/

theorem write_grown {content : ByteArray} (written : d.write p content = .ok e) :
    Grown d [] [(d.destination p, content)] e := by
  obtain ⟨other, rfl⟩ := write_ok written
  refine ⟨rfl, fun place => ?_, nofun, fun entry member => ?_⟩
  · rw [node?_put d (ne_nil_of_node? other)]
    by_cases same : place = d.destination p
    · simp [after, same]
    · have unequal : (place == d.destination p) = false := beq_false_of_ne same
      simp [after, List.lookup_cons, unequal, same]
  · cases List.mem_singleton.mp member
    exact other

theorem store_ok {content : ByteArray} (stored : d.store p content = (.ok (), e)) :
    Grown d (d.stations p.parent) [(d.destination p, content)] e := by
  unfold store at stored
  cases run : d.makeDirectories p.parent.root p.parent.parts.reverse with
  | mk outcome made =>
    obtain ⟨places, -, grown, whole⟩ := makeDirectories_grown run
    rw [run] at stored
    cases outcome with
    | error fault => cases stored
    | ok done =>
      obtain rfl := whole rfl
      dsimp only at stored
      split at stored
      next file written =>
        cases stored
        have more := write_grown written
        rw [destination_congr grown.working] at more
        have both := grown.trans more
        rwa [List.reverse_reverse, List.append_nil, List.append_nil] at both
      next => cases stored

/-- Storing that is refused may have made directories above the file, the outermost first. -/
theorem store_error {content : ByteArray} {fault : DiskFault}
    (refused : d.store p content = (.error fault, e)) :
    ∃ made, made <+: d.stations p.parent ∧ Grown d made [] e := by
  unfold store at refused
  cases run : d.makeDirectories p.parent.root p.parent.parts.reverse with
  | mk outcome made =>
    obtain ⟨places, start, grown, -⟩ := makeDirectories_grown run
    rw [List.reverse_reverse] at start
    rw [run] at refused
    cases outcome with
    | error => cases refused; exact ⟨places, start, grown⟩
    | ok done =>
      dsimp only at refused
      split at refused
      next => cases refused
      next => cases refused; exact ⟨places, start, grown⟩

/-- Where the directory of a file is there, storing it is writing it. -/
theorem store_of_isDirectory (there : d.isDirectory p.parent = true) (content : ByteArray) :
    d.store p content =
      match d.write p content with
      | .ok e => (.ok (), e)
      | .error fault => (.error fault, d) := by
  have whole : (⟨p.parent.root, p.parent.parts.reverse.reverse⟩ : Path) = p.parent := by
    rw [List.reverse_reverse]
  have none := makeDirectories_of_isDirectory (whole ▸ there)
  cases written : d.write p content with
  | ok e => simp only [store, none, written]
  | error fault => simp only [store, none, written]

/-- A file is stored by making the directories above it and writing it there. -/
theorem store_made {made : Disk} {content : ByteArray}
    (above : d.makeDirectories p.parent.root p.parent.parts.reverse = (.ok (), made))
    (written : made.write p content = .ok e) : d.store p content = (.ok (), e) := by
  simp only [store, above, written]

/-- A file is written in a directory that is there, unless a directory stands in its place. -/
theorem write_free {place : List String} (located : d.locate p = .ok place)
    (above : d.node? place.dropLast = some .directory) (free : d.node? place ≠ some .directory)
    (content : ByteArray) : d.write p content = .ok (d.put place (.file content)) := by
  rw [write, located]
  dsimp only
  rw [above]
  cases found : d.node? place with
  | none => rfl
  | some node =>
    cases node with
    | file => rfl
    | directory => exact absurd found free

/-- Storing a file in a directory that is there is writing it. -/
theorem store_free {place : List String} (there : d.isDirectory p.parent = true)
    (located : d.locate p = .ok place) (above : d.node? place.dropLast = some .directory)
    (free : d.node? place ≠ some .directory) (content : ByteArray) :
    d.store p content = (.ok (), d.put place (.file content)) := by
  rw [store_of_isDirectory there, write_free located above free]

section

variable {name : String} (there : d.node? d.working = some .directory) (down : name ≠ "..")
  (clean : name.toList.contains '\x00' = false) (short : name.utf8ByteSize ≤ longestName)

include there down clean short

/-- A new file with a bare name is stored in the working directory. -/
theorem store_bare (absent : d.node? (d.working ++ [name]) = none) (content : ByteArray) :
    d.store ⟨"", [name]⟩ content = (.ok (), d.put (d.working ++ [name]) (.file content)) := by
  have here : d.isDirectory (Path.parent ⟨"", [name]⟩) = true := isDirectory_here there
  have above : d.node? (d.working ++ [name]).dropLast = some .directory := by
    rwa [List.dropLast_concat]
  exact store_free here (locate_bare there down clean short) above (by simp [absent]) content

/-- A new directory with a bare name is made in the working directory. -/
theorem makeDirectories_bare (absent : d.node? (d.working ++ [name]) = none) :
    d.makeDirectories "" [name] = (.ok (), d.put (d.working ++ [name]) .directory) := by
  have made : d.ensureDirectory ⟨"", [name].reverse⟩ = .ok (d.put (d.working ++ [name]) .directory) := by
    rw [List.reverse_singleton, ensureDirectory, makeDirectory, locate_bare there down clean short]
    dsimp only
    rw [absent]
  simp only [makeDirectories, made]

theorem store_bare_taken (taken : d.node? (d.working ++ [name]) = some .directory)
    (content : ByteArray) :
    d.store ⟨"", [name]⟩ content = (.error ⟨.isDirectory, ⟨"", [name]⟩⟩, d) := by
  have here : d.isDirectory (Path.parent ⟨"", [name]⟩) = true := isDirectory_here there
  rw [store_of_isDirectory here, write, locate_bare there down clean short]
  dsimp only
  rw [taken]

end

/-- The directories above files that are stored. -/
def directoriesOf (d : Disk) (writes : List (Path × ByteArray)) : List (List String) :=
  writes.flatMap fun file => d.stations file.1.parent

/-- Files that are stored with their places, the last one first. -/
def filesOf (d : Disk) (writes : List (Path × ByteArray)) : List (List String × ByteArray) :=
  (writes.map fun file => (d.destination file.1, file.2)).reverse

theorem directoriesOf_congr (same : e.working = d.working) (writes : List (Path × ByteArray)) :
    e.directoriesOf writes = d.directoriesOf writes := by
  simp only [directoriesOf, stations_congr same]

theorem filesOf_congr (same : e.working = d.working) (writes : List (Path × ByteArray)) :
    e.filesOf writes = d.filesOf writes := by
  simp only [filesOf, destination_congr same]

theorem Grown.store {rest : List (Path × ByteArray)} {content : ByteArray}
    {made : List (List String)} (first : Grown d (d.stations p.parent) [(d.destination p, content)] e)
    (later : Grown e (e.directoriesOf rest ++ made) (e.filesOf rest) f) :
    Grown d (d.directoriesOf ((p, content) :: rest) ++ made) (d.filesOf ((p, content) :: rest)) f := by
  rw [directoriesOf_congr first.working, filesOf_congr first.working] at later
  have both := first.trans later
  simpa only [directoriesOf, filesOf, List.flatMap_cons, List.map_cons, List.reverse_cons,
    List.append_assoc] using both

/-- Files that are all stored are all there in the end, with the directories above them. -/
theorem storeAll_ok {writes : List (Path × ByteArray)} (stored : d.storeAll writes = (.ok (), e)) :
    Grown d (d.directoriesOf writes) (d.filesOf writes) e := by
  induction writes generalizing d with
  | nil =>
    cases stored
    exact .refl _
  | cons file rest ih =>
    obtain ⟨p, content⟩ := file
    rw [storeAll] at stored
    split at stored
    next between here =>
      have later := ih stored
      rw [← List.append_nil (directoriesOf _ _)] at later ⊢
      exact (store_ok here).store later
    next failed notStored =>
      exact absurd stored (notStored e)

/-- Files that are not all stored are there up to the one that is refused, with the directories above
them and some directories above that one. -/
theorem storeAll_error {writes : List (Path × ByteArray)} {fault : DiskFault}
    (refused : d.storeAll writes = (.error fault, e)) :
    ∃ before p content rest made, writes = before ++ (p, content) :: rest ∧
      made <+: d.stations p.parent ∧
      Grown d (d.directoriesOf before ++ made) (d.filesOf before) e := by
  induction writes generalizing d with
  | nil => cases refused
  | cons file rest ih =>
    obtain ⟨p, content⟩ := file
    rw [storeAll] at refused
    split at refused
    next between here =>
      obtain ⟨before, q, other, after, made, rfl, start, grown⟩ := ih refused
      have first := store_ok here
      rw [stations_congr first.working] at start
      exact ⟨(p, content) :: before, q, other, after, made, rfl, start, first.store grown⟩
    next =>
      obtain ⟨made, start, grown⟩ := store_error refused
      exact ⟨[], p, content, rest, made, rfl, start, grown⟩

/-- However far storing comes, the places that change lie on the way to one of the files. -/
theorem storeAll_cases (d : Disk) (writes : List (Path × ByteArray)) (place : List String) :
    (d.storeAll writes).2.node? place = d.node? place ∨
      (d.storeAll writes).2.node? place = some .directory ∧
        (∃ entry ∈ writes, place ∈ d.stations entry.1.parent) ∨
      ∃ entry ∈ writes, place = d.destination entry.1 := by
  have above {row : List (Path × ByteArray)} (member : place ∈ d.directoriesOf row) :
      ∃ entry ∈ row, place ∈ d.stations entry.1.parent := List.mem_flatMap.mp member
  have file {row : List (Path × ByteArray)} (member : place ∈ (d.filesOf row).map (·.1)) :
      ∃ entry ∈ row, place = d.destination entry.1 := by
    rw [filesOf, List.map_reverse, List.mem_reverse, List.map_map] at member
    obtain ⟨entry, listed, there⟩ := List.mem_map.mp member
    exact ⟨entry, listed, there.symm⟩
  cases outcome : (d.storeAll writes).1 with
  | ok done =>
    rcases (storeAll_ok (Prod.ext outcome rfl)).cases place with same | ⟨made, now⟩ | written
    · exact .inl same
    · exact .inr (.inl ⟨now, above made⟩)
    · exact .inr (.inr (file written))
  | error fault =>
    obtain ⟨before, p, content, rest, made, split, start, grown⟩ :=
      storeAll_error (Prod.ext outcome rfl)
    have early {entry : Path × ByteArray} (listed : entry ∈ before) : entry ∈ writes :=
      split ▸ List.mem_append_left _ listed
    have refused : (p, content) ∈ writes := by simp [split]
    rcases grown.cases place with same | ⟨member, now⟩ | written
    · exact .inl same
    · refine .inr (.inl ⟨now, ?_⟩)
      rcases List.mem_append.mp member with old | last
      · obtain ⟨entry, listed, there⟩ := above old
        exact ⟨entry, early listed, there⟩
      · exact ⟨_, refused, start.subset last⟩
    · obtain ⟨entry, listed, there⟩ := file written
      exact .inr (.inr ⟨entry, early listed, there⟩)

end

end RpcBindings.Disk
