import Mathlib.Data.List.Infix
import RpcBindings.Disk
import RpcBindings.Proofs.Outcome

/-! Where paths lead in a tree of files. The components of a path spell out one place for each of
them; a path that can be followed leads to the last of these places, and what it leaves on its way
there are directories. Making a directory or writing a file changes one place and no other. -/
namespace RpcBindings.Disk

open Outcome

/-- The place that a component leads to: the directory above, or a name in the directory. -/
def move (place : List String) (part : String) : List String :=
  if part = ".." then place.dropLast else place ++ [part]

/-- The place that a row of components leads to. -/
def walk (place : List String) (parts : List String) : List String := parts.foldl move place

/-- The place that a path starts from. -/
def start (d : Disk) (p : Path) : List String := if p.root = "" then d.working else []

/-- The place that a path denotes. -/
def destination (d : Disk) (p : Path) : List String := walk (d.start p) p.parts

/-- The places on the way of a path, from its start to the one that it denotes. -/
def stations (d : Disk) (p : Path) : List (List String) := p.parts.inits.map (walk (d.start p))

@[simp] theorem walk_nil (place : List String) : walk place [] = place := rfl

@[simp] theorem walk_cons (place : List String) (part : String) (rest : List String) :
    walk place (part :: rest) = walk (move place part) rest := rfl

@[simp] theorem walk_append (place parts rest : List String) :
    walk place (parts ++ rest) = walk (walk place parts) rest := List.foldl_append

section

variable {d : Disk} {p : Path}

theorem mem_stations {place : List String} :
    place ∈ d.stations p ↔ ∃ front rest, p.parts = front ++ rest ∧ walk (d.start p) front = place := by
  simp only [stations, List.mem_map, List.mem_inits, List.IsPrefix]
  constructor
  · rintro ⟨front, ⟨rest, split⟩, there⟩
    exact ⟨front, rest, split.symm, there⟩
  · rintro ⟨front, rest, split, there⟩
    exact ⟨front, ⟨rest, split.symm⟩, there⟩

theorem destination_mem_stations : d.destination p ∈ d.stations p :=
  mem_stations.mpr ⟨p.parts, [], (List.append_nil _).symm, rfl⟩

/-- The way of a path is that of its parent and one station more. -/
theorem stations_concat (root : String) (parts : List String) (part : String) :
    d.stations ⟨root, parts ++ [part]⟩ =
      d.stations ⟨root, parts⟩ ++ [d.destination ⟨root, parts ++ [part]⟩] := by
  simp [stations, destination, start, List.inits_append]

/-- Where a path leads has to do with the working directory and with nothing else on the disk. -/
theorem destination_congr {e : Disk} (same : e.working = d.working) :
    e.destination p = d.destination p := by
  simp only [destination, start, same]

theorem stations_congr {e : Disk} (same : e.working = d.working) :
    e.stations p = d.stations p := by
  simp only [stations, start, same]

/-! ### Following paths -/

theorem follow_ok {place parts found : List String} (followed : d.follow place parts = .ok found) :
    found = walk place parts ∧
      ∀ front part rest, parts = front ++ part :: rest →
        d.node? (walk place front) = some .directory := by
  induction parts generalizing place with
  | nil =>
    cases followed
    exact ⟨rfl, fun front _ _ split => absurd split.symm (List.append_ne_nil_of_right_ne_nil _ nofun)⟩
  | cons part parts ih =>
    rw [follow] at followed
    split at followed
    · cases followed
    · cases followed
    next here =>
      have on : d.follow (move place part) parts = .ok found := by
        unfold move
        split at followed
        case isTrue up => rw [if_pos up]; exact followed
        case isFalse down =>
          rw [if_neg down]
          split at followed
          · cases followed
          · exact followed
      obtain ⟨there, left⟩ := ih on
      refine ⟨there, fun front next rest split => ?_⟩
      cases front with
      | nil => exact here
      | cons first front =>
        obtain ⟨rfl, later⟩ := List.cons.inj split
        exact left front next rest later

theorem follow_of_locate {found : List String} (located : d.locate p = .ok found) :
    d.follow (d.start p) p.parts = .ok found := by
  unfold locate at located
  dsimp only at located
  split at located
  · cases located
  · split at located
    · cases located
    · exact located

/-- A path without the character of code zero that is not too long is followed component by
component. -/
theorem locate_eq_follow (d : Disk) {p : Path}
    (clean : p.toString.toList.contains '\x00' = false)
    (short : p.toString.utf8ByteSize ≤ longestPath) :
    d.locate p = d.follow (d.start p) p.parts := by
  have noNul : p.toString.contains '\x00' = false := by simpa using clean
  have fits : ¬ longestPath < p.toString.utf8ByteSize := Nat.not_lt.mpr short
  simp only [locate, noNul, fits]
  rfl

theorem locate_ok {found : List String} (located : d.locate p = .ok found) :
    found = d.destination p :=
  (follow_ok (follow_of_locate located)).1

/-- All stations of a path that leads somewhere, but for the last one, are directories. -/
theorem directory_of_locate {found place : List String} (located : d.locate p = .ok found)
    (station : place ∈ d.stations p) :
    place = d.destination p ∨ d.node? place = some .directory := by
  obtain ⟨front, rest, split, rfl⟩ := mem_stations.mp station
  cases rest with
  | nil =>
    rw [List.append_nil] at split
    exact .inl (by rw [destination, split])
  | cons part rest =>
    exact .inr ((follow_ok (follow_of_locate located)).2 front part rest split)

theorem follow_ne_nul (d : Disk) (place parts : List String) :
    d.follow place parts ≠ .error .nulInPath := by
  induction parts generalizing place with
  | nil => nofun
  | cons part rest ih =>
    rw [follow]
    split
    · nofun
    · nofun
    · split
      · exact ih _
      · split
        · nofun
        · exact ih _

theorem locate_nul_iff :
    d.locate p = .error .nulInPath ↔ p.toString.contains '\x00' = true := by
  by_cases nul : p.toString.contains '\x00' = true
  · simp [locate, nul]
  · by_cases long : longestPath < p.toString.utf8ByteSize <;> simp [locate, nul, long, follow_ne_nul]

/-- It is for its text alone that a path cannot be looked for. -/
theorem look_nul_iff : d.look p = .error .nulInPath ↔ p.toString.contains '\x00' = true := by
  rw [← locate_nul_iff (d := d)]
  cases located : d.locate p with
  | error e => simp [look, find, located]
  | ok place => rcases there : d.node? place with _ | (_ | _) <;> simp [look, find, located, there]

theorem look_of_located {place : List String} {content : ByteArray} (located : d.locate p = .ok place)
    (below : place.isEmpty = false) (held : d.entries.lookup place = some (.file content)) :
    d.look p = .ok content := by
  have node : d.node? place = some (.file content) := by simp [node?, below, held]
  simp only [look, find, located, ok_bind, node]

/-! ### Changing one place -/

theorem lookup_filter_ne {place other : List String} (entries : List (List String × Node))
    (apart : other ≠ place) :
    (entries.filter fun entry => entry.1 != place).lookup other = entries.lookup other := by
  induction entries with
  | nil => rfl
  | cons entry entries ih =>
    by_cases same : entry.1 = place
    · have unequal : (other == entry.1) = false := beq_false_of_ne fun equal => apart (equal.trans same)
      rw [List.filter_cons_of_neg (by simp [same]), ih, List.lookup_cons, unequal]
    · rw [List.filter_cons_of_pos (by simp [same]), List.lookup_cons, List.lookup_cons, ih]

/-- Putting something at a place below the root changes this place and no other. -/
theorem node?_put (d : Disk) {place : List String} (below : place ≠ []) (node : Node)
    (other : List String) :
    (d.put place node).node? other = if other = place then some node else d.node? other := by
  by_cases same : other = place
  · subst same
    simp [node?, put, below]
  · have unequal : (other == place) = false := beq_false_of_ne same
    simp only [node?, put, List.lookup_cons, unequal, if_neg same, lookup_filter_ne _ same]

theorem ne_nil_of_node? {place : List String} (other : d.node? place ≠ some .directory) :
    place ≠ [] := by
  rintro rfl
  exact other rfl

theorem makeDirectory_ok {e : Disk} (made : d.makeDirectory p = .ok e) :
    d.locate p = .ok (d.destination p) ∧ d.node? (d.destination p) = none ∧
      e = d.put (d.destination p) .directory := by
  unfold makeDirectory at made
  split at made
  · cases made
  next place located =>
    obtain rfl := locate_ok located
    split at made
    · cases made
    next free =>
      cases made
      exact ⟨located, free, rfl⟩

theorem isDirectory_iff :
    d.isDirectory p = true ↔ ∃ place, d.locate p = .ok place ∧ d.node? place = some .directory := by
  unfold isDirectory find
  cases d.locate p with
  | error e => simp
  | ok place =>
    rcases found : d.node? place with _ | (_ | _) <;> simp [found]

/-- A bare name leads into the working directory. -/
theorem locate_bare {name : String} (there : d.node? d.working = some .directory) (down : name ≠ "..")
    (clean : name.toList.contains '\x00' = false) (short : name.utf8ByteSize ≤ longestName) :
    d.locate ⟨"", [name]⟩ = .ok (d.working ++ [name]) := by
  have text : (⟨"", [name]⟩ : Path).toString = name := by simp [Path.toString]
  have fits : ¬ longestName < name.utf8ByteSize := Nat.not_lt.mpr short
  have start : d.start ⟨"", [name]⟩ = d.working := if_pos rfl
  rw [locate_eq_follow d (by rwa [text]) (by rw [text]; exact Nat.le_trans short (by decide)), start]
  simp [follow, there, down, fits]

theorem isDirectory_here (there : d.node? d.working = some .directory) :
    d.isDirectory ⟨"", []⟩ = true := by
  refine isDirectory_iff.mpr ⟨d.working, ?_, there⟩
  rw [locate_eq_follow d (by decide +kernel) (by decide +kernel)]
  rfl

/-- A file is written where there is no directory. -/
theorem write_ok {content : ByteArray} {e : Disk} (written : d.write p content = .ok e) :
    d.node? (d.destination p) ≠ some .directory ∧
      e = d.put (d.destination p) (.file content) := by
  unfold write at written
  split at written
  · cases written
  next place located =>
    obtain rfl := locate_ok located
    split at written <;> try cases written
    · next found => exact ⟨by simp [found], rfl⟩
    · next free _ => exact ⟨by simp [free], rfl⟩

end

end RpcBindings.Disk
