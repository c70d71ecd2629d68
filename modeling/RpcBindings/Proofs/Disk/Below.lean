import RpcBindings.Proofs.Disk.Place
import RpcBindings.Proofs.Path.Relative

/-! Paths that stay below a directory. The place of a path, as it is read off its components, tells
where the path leads from any directory: as many directories up as the place lies above, and down its
names. So a path stays below whatever directory it is seen from if it is relative and its place lies
below, and only then. -/
namespace RpcBindings

namespace Disk

/-- Where a place lies that is seen from a directory. -/
def spot (base : List String) (place : Path.Place) : List String :=
  if place.rooted then place.names
  else base.take (base.length - place.above) ++ place.names

/-- A move by one component is a step of the place. -/
theorem move_spot (base : List String) (place : Path.Place) (part : String) :
    move (spot base place) part = spot base (place.step part) := by
  obtain ⟨rooted, above, names⟩ := place
  by_cases up : part = ".."
  · rw [move, if_pos up, Path.Place.step, if_pos up]
    cases names with
    | nil =>
      cases rooted with
      | true => rfl
      | false =>
        simp only [spot, Bool.false_eq_true, if_false, List.append_nil, List.dropLast_eq_take,
          List.length_take, List.take_take]
        congr 1
        omega
    | cons name names =>
      cases rooted with
      | true => rfl
      | false =>
        simp only [spot, Bool.false_eq_true, if_false]
        rw [List.dropLast_append_of_ne_nil (List.cons_ne_nil name names)]
  · rw [move, if_neg up, Path.Place.step, if_neg up]
    cases rooted with
    | true => rfl
    | false => simp [spot]

theorem walk_spot (base : List String) (place : Path.Place) (parts : List String) :
    walk (spot base place) parts = spot base (parts.foldl Path.Place.step place) := by
  induction parts generalizing place with
  | nil => rfl
  | cons part rest ih => rw [walk_cons, move_spot, ih, List.foldl_cons]

theorem walk_eq_spot (base parts : List String) :
    walk base parts = spot base (Path.place ⟨"", parts⟩) := by
  have here : spot base ⟨false, 0, []⟩ = base := by simp [spot]
  have walked := walk_spot base ⟨false, 0, []⟩ parts
  rwa [here] at walked

section

variable {d : Disk} {directory p : Path}

theorem destination_join_relative (relative : p.root = "") :
    d.destination (directory.join p) = walk (d.destination directory) p.parts := by
  rw [Path.join, if_pos relative]
  simp only [destination, start, walk_append]

/-- A path that is seen from a directory leads to its place as seen from there. -/
theorem destination_join (d : Disk) (directory p : Path) :
    d.destination (directory.join p) = spot (d.destination directory) p.place := by
  by_cases relative : p.root = ""
  · have place : p.place = Path.place ⟨"", p.parts⟩ := by rw [Path.place, relative]; rfl
    rw [destination_join_relative relative, walk_eq_spot, place]
  · have rooted : (p.root != "") = true := by simpa using relative
    have start : d.start p = [] := if_neg relative
    have still : p.place.rooted = true := (Path.Place.rooted_foldl _ _).trans rooted
    have fromRoot := walk_spot [] ⟨true, 0, []⟩ p.parts
    have place : p.place = p.parts.foldl Path.Place.step ⟨true, 0, []⟩ := by rw [Path.place, rooted]
    rw [← place] at fromRoot
    have names (base : List String) : spot base p.place = p.place.names := if_pos still
    rw [Path.join, if_neg relative, destination, start, names, ← names []]
    exact fromRoot

end

end Disk

/-! ### Paths inside -/

namespace Path

/-- Whether a path leads below any directory that it is seen from. -/
structure Inside (p : Path) : Prop where
  relative : p.root = ""
  above : p.place.above = 0
  named : p.place.names ≠ []

/-- Whether the directory of a name is any directory that it is seen from, or below that one. -/
structure Stays (name : String) : Prop where
  relative : rootOf name.toList = ""
  above : (place ⟨"", leading name.toList⟩).above = 0

/-- What stands behind the last slash of a name has no say in where its directory is. -/
theorem stays_append {name tail : String} (free : '/' ∉ tail.toList) :
    Stays (name ++ tail) ↔ Stays name := by
  constructor
  · rintro ⟨relative, above⟩
    rw [String.toList_append, rootOf_append free] at relative
    rw [String.toList_append, leading_append free] at above
    exact ⟨relative, above⟩
  · rintro ⟨relative, above⟩
    refine ⟨?_, ?_⟩
    · rwa [String.toList_append, rootOf_append free]
    · rwa [String.toList_append, leading_append free]

/-- A name with an ending leads below any directory that it is seen from exactly if its directory
stays there. -/
theorem inside_append_iff {name tail : String} (ending : IsEnding tail.toList) :
    (ofString (name ++ tail)).Inside ↔ Stays name := by
  have root : (ofString (name ++ tail)).root = "" ↔ rootOf name.toList = "" := by
    rw [ofString, String.toList_append]
    exact rootOf_append ending.free _
  have place (relative : rootOf name.toList = "") : (ofString (name ++ tail)).place =
      { place ⟨"", leading name.toList⟩ with
        names := (place ⟨"", leading name.toList⟩).names ++
          [String.ofList (lastPart name.toList ++ tail.toList)] } := by
    have bare := root.mpr relative
    rw [ofString_append ending] at bare ⊢
    rw [Path.place, bare]
    dsimp only
    rw [List.foldl_append, List.foldl_cons, List.foldl_nil, Place.step, if_neg (ending.ne_up _)]
    rfl
  constructor
  · intro inside
    have relative := root.mp inside.relative
    have above := inside.above
    rw [place relative] at above
    exact ⟨relative, above⟩
  · intro stays
    refine ⟨root.mpr stays.relative, ?_, ?_⟩
    · rw [place stays.relative]
      exact stays.above
    · rw [place stays.relative]
      exact List.append_ne_nil_of_right_ne_nil _ (List.cons_ne_nil _ _)

end Path

namespace Disk

/-- Whether a place lies below a directory. -/
def Below (base place : List String) : Prop := ∃ names, names ≠ [] ∧ place = base ++ names

variable {d : Disk} {directory p : Path}

theorem spot_of_above {base : List String} {place : Path.Place} (unrooted : place.rooted = false)
    (above : place.above = 0) : spot base place = base ++ place.names := by
  simp [spot, unrooted, above]

theorem unrooted_of_relative (relative : p.root = "") : p.place.rooted = false := by
  rw [Path.place, Path.Place.rooted_foldl, relative]
  rfl

/-- A path inside leads below the directory that it is seen from. -/
theorem below_of_inside (inside : p.Inside) :
    Below (d.destination directory) (d.destination (directory.join p)) :=
  ⟨p.place.names, inside.named, by
    rw [destination_join, spot_of_above (unrooted_of_relative inside.relative) inside.above]⟩

theorem destination_of_names {base : List String} (down : ".." ∉ base) (d : Disk) :
    d.destination ⟨"/", base⟩ = base := by
  have walked := walk_eq_spot [] base
  rw [Path.place_of_down (p := ⟨"", base⟩) down] at walked
  exact walked

/-- Below a deep directory whose names are all the same, only a place with as many of them in front as
it lies above is below it. -/
theorem names_of_below {name : String} {place : Path.Place}
    (below : Below (List.replicate (place.above + place.names.length + 1) name)
      (spot (List.replicate (place.above + place.names.length + 1) name) place)) :
    place.rooted = false ∧
      ∃ more, more ≠ [] ∧ place.names = List.replicate place.above name ++ more := by
  obtain ⟨more, some, split⟩ := below
  obtain ⟨rooted, above, names⟩ := place
  cases rooted with
  | true =>
    have lengths := congrArg List.length split
    simp only [spot, if_true, List.length_append, List.length_replicate] at lengths
    omega
  | false =>
    have deep : List.replicate (above + names.length + 1) name =
        List.replicate (names.length + 1) name ++ List.replicate above name := by
      rw [List.replicate_append_replicate]
      congr 1
      omega
    have kept : above + names.length + 1 - above = names.length + 1 := by omega
    simp only [spot, Bool.false_eq_true, if_false, List.length_replicate, kept] at split
    rw [deep, List.take_left' List.length_replicate, List.append_assoc,
      List.append_cancel_left_eq] at split
    exact ⟨rfl, more, some, split⟩

/-- A path that leads below every directory is a path inside. -/
theorem inside_of_below
    (below : ∀ (d : Disk) directory,
      Below (d.destination directory) (d.destination (directory.join p))) : p.Inside := by
  have seen (name : String) (other : ".." ≠ name) : p.place.rooted = false ∧
      ∃ more, more ≠ [] ∧ p.place.names = List.replicate p.place.above name ++ more := by
    have down : ".." ∉ List.replicate (p.place.above + p.place.names.length + 1) name :=
      fun member => other (List.eq_of_mem_replicate member)
    have here := below empty ⟨"/", List.replicate (p.place.above + p.place.names.length + 1) name⟩
    rw [destination_join, destination_of_names down] at here
    exact names_of_below here
  obtain ⟨unrooted, more, some, first⟩ := seen "x" (by decide)
  obtain ⟨-, others, -, second⟩ := seen "y" (by decide)
  have relative : p.root = "" := by
    rw [Path.place, Path.Place.rooted_foldl] at unrooted
    simpa using unrooted
  cases above : p.place.above with
  | zero =>
    rw [above, List.replicate_zero, List.nil_append] at first
    exact ⟨relative, above, first ▸ some⟩
  | succ n =>
    -- The first name cannot be that of both directories.
    have clash := first.symm.trans second
    rw [above, List.replicate_succ, List.replicate_succ, List.cons_append, List.cons_append] at clash
    exact absurd (List.cons.inj clash).1 (by decide)

/-- A path leads below whatever directory it is seen from if it is a path inside, and only then. -/
theorem inside_iff : p.Inside ↔
    ∀ (d : Disk) directory, Below (d.destination directory) (d.destination (directory.join p)) :=
  ⟨fun inside _ _ => below_of_inside inside, inside_of_below⟩

/-- On the way of a path inside lie stations of the directory and places below it. -/
theorem station_of_inside (inside : p.Inside) {place : List String}
    (station : place ∈ d.stations (directory.join p).parent) :
    place ∈ d.stations directory ∨ Below (d.destination directory) place := by
  have filled : p.parts ≠ [] := by
    intro none
    apply inside.named
    rw [Path.place, none]
    rfl
  have parts : (directory.join p).parent = ⟨directory.root, directory.parts ++ p.parts.dropLast⟩ := by
    rw [Path.join, if_pos inside.relative, Path.parent, List.dropLast_append_of_ne_nil filled]
  rw [parts] at station
  obtain ⟨front, rest, split, there⟩ := mem_stations.mp station
  have same : d.start ⟨directory.root, directory.parts ++ p.parts.dropLast⟩ = d.start directory := rfl
  rw [same] at there
  rcases List.append_eq_append_iff.mp split with ⟨more, rfl, inner⟩ | ⟨more, outer, -⟩
  · have behind : walk (d.destination directory) more = place := by
      rw [← there, walk_append]
      rfl
    have split : p.parts = more ++ (rest ++ [p.parts.getLast filled]) := by
      rw [← List.append_assoc, ← inner, List.dropLast_concat_getLast]
    have whole : p.place = (rest ++ [p.parts.getLast filled]).foldl Path.Place.step
        (Path.place ⟨"", more⟩) := by
      rw [Path.place, inside.relative, Path.place, ← List.foldl_append, ← split]
    have above : (Path.place ⟨"", more⟩).above = 0 := by
      have climb := Path.Place.above_le_foldl (Path.place ⟨"", more⟩) (rest ++ [p.parts.getLast filled])
      rw [← whole, inside.above] at climb
      exact Nat.le_zero.mp climb
    rw [walk_eq_spot, spot_of_above (unrooted_of_relative rfl) above] at behind
    cases names : (Path.place ⟨"", more⟩).names with
    | nil =>
      rw [names, List.append_nil] at behind
      exact .inl (behind ▸ destination_mem_stations)
    | cons name names' =>
      exact .inr ⟨_, List.cons_ne_nil name names', names ▸ behind.symm⟩
  · exact .inl (mem_stations.mpr ⟨front, more, outer, there⟩)

end Disk

end RpcBindings
