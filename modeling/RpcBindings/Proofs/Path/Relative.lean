import RpcBindings.Proofs.Path
import RpcBindings.Proofs.Path.Components
import RpcBindings.Proofs.Path.Place

/-! Paths that are written in a file and seen from its directory. A relative path to a target leads to
the target again; so does a path from the root of a tree behind as many pairs of dots as there are
directories between the root and the file. -/
namespace RpcBindings.Path

open Text

/-- The place that a path denotes which is written in a file: it starts from the file's directory. -/
def seenFrom (file written : String) : Place := ((ofString file).parent.join (ofString written)).place

/-- Whether a name is a relative path without a pair of dots before its last slash. -/
structure Descends (name : String) : Prop where
  relative : rootOf name.toList = ""
  down : ".." ∉ leading name.toList

section

variable {name tail : String}

theorem leading_subset (s : List Char) : leading s ⊆ components s := by
  rw [components_eq]
  exact List.subset_append_left _ _

/-- A relative path without pairs of dots descends. -/
theorem descends_of_down (relative : rootOf name.toList = "") (down : ".." ∉ components name.toList) :
    Descends name :=
  ⟨relative, fun member => down (leading_subset _ member)⟩

/-! ### Names with an ending -/

theorem ofString_append (ending : IsEnding tail.toList) (name : String) :
    ofString (name ++ tail) = ⟨rootOf (name ++ tail).toList,
      leading name.toList ++ [String.ofList (lastPart name.toList ++ tail.toList)]⟩ := by
  rw [ofString, String.toList_append, components_append ending]

theorem Descends.append_relative (descends : Descends name) (ending : IsEnding tail.toList) :
    rootOf (name ++ tail).toList = "" := by
  rw [String.toList_append, rootOf_append ending.free]
  exact descends.relative

theorem Descends.append_down (descends : Descends name) (ending : IsEnding tail.toList) :
    ".." ∉ leading name.toList ++ [String.ofList (lastPart name.toList ++ tail.toList)] := by
  rw [List.mem_append, List.mem_singleton, not_or]
  exact ⟨descends.down, (ending.ne_up _).symm⟩

/-- A name with an ending lies in the directory of the name. -/
theorem seenFrom_append (ending : IsEnding tail.toList) (descends : Descends name) {written : String}
    (relative : rootOf written.toList = "") :
    seenFrom (name ++ tail) written =
      (components written.toList).foldl Place.step ⟨false, 0, leading name.toList⟩ := by
  have here : (ofString (name ++ tail)).parent = ⟨"", leading name.toList⟩ := by
    rw [ofString_append ending, parent, descends.append_relative ending, List.dropLast_concat]
  have there : ofString written = ⟨"", components written.toList⟩ := by rw [ofString, relative]
  rw [seenFrom, here, there, join, if_pos rfl, place]
  dsimp only
  rw [List.foldl_append, Place.foldl_step_names descends.down]
  rfl

/-- A name with an ending denotes the place of its components. -/
theorem place_append (ending : IsEnding tail.toList) (descends : Descends name) :
    (ofString (name ++ tail)).place =
      ⟨false, 0, leading name.toList ++ [String.ofList (lastPart name.toList ++ tail.toList)]⟩ := by
  rw [ofString_append ending, descends.append_relative ending]
  exact place_of_down (descends.append_down ending)

/-! ### Relative paths -/

theorem isComponent_up : IsComponent ".." := by
  constructor <;> decide

theorem isComponent_route {start target part : String}
    (member : part ∈ (ofString start).place.route (ofString target).place) : IsComponent part := by
  rcases mem_route member with rfl | listed
  · exact isComponent_up
  · exact isComponent_of_mem (mem_of_mem_place_names listed)

theorem components_relative (target start : String) :
    components (relative target start).toList =
      (ofString start).place.route (ofString target).place := by
  rw [relative]
  split
  next none => rw [none]; rfl
  next => exact components_intercalate fun part => isComponent_route

theorem rootOf_relative (target start : String) : rootOf (relative target start).toList = "" := by
  rw [relative]
  split
  next => rfl
  next => exact rootOf_intercalate fun part => isComponent_route

/-- The directory of a name that descends. -/
theorem place_directoryOf (descends : Descends name) :
    (ofString (onString directoryOf name)).place = ⟨false, 0, leading name.toList⟩ := by
  rw [ofString, toList_onString, components_directoryOf, rootOf_directoryOf descends.relative]
  exact place_of_down descends.down

/-- The relative path from a file's directory to a name with an ending leads from the file to it. -/
theorem seenFrom_relative (ending : IsEnding tail.toList) (descends : Descends name)
    {other suffix : String} (suffixEnding : IsEnding suffix.toList) (otherDescends : Descends other) :
    seenFrom (name ++ tail) (relative (other ++ suffix) (onString directoryOf name)) =
      (ofString (other ++ suffix)).place := by
  rw [seenFrom_append ending descends (rootOf_relative _ _), components_relative,
    place_directoryOf descends, place_append suffixEnding otherDescends]
  exact Place.foldl_route rfl rfl (otherDescends.append_down suffixEnding)

/-- A name without its directories, with an ending, is in the directory of the name. -/
theorem seenFrom_lastPart (ending : IsEnding tail.toList) (descends : Descends name) {suffix : String}
    (suffixEnding : IsEnding suffix.toList) :
    seenFrom (name ++ tail) (String.ofList (lastPart name.toList) ++ suffix) =
      (ofString (name ++ suffix)).place := by
  have bare := lastPart_free name.toList
  have root : rootOf (String.ofList (lastPart name.toList) ++ suffix).toList = "" := by
    rw [String.toList_append, String.toList_ofList, rootOf_append suffixEnding.free,
      rootOf_eq_empty_iff]
    exact fun slash => bare (List.mem_of_mem_head? slash)
  have other : ".." ∉ [String.ofList (lastPart name.toList ++ suffix.toList)] := by
    rw [List.mem_singleton]
    exact (suffixEnding.ne_up _).symm
  rw [seenFrom_append ending descends root, place_append suffixEnding descends,
    String.toList_append, String.toList_ofList, components_append suffixEnding,
    leading_of_not_mem bare, lastPart_of_not_mem bare, List.nil_append, Place.foldl_step_names other]

/-! ### Paths from the root of the tree -/

theorem components_ups (n : Nat) (r : String) :
    components (String.join (List.replicate n "../") ++ r).toList =
      List.replicate n ".." ++ components r.toList := by
  induction n with
  | zero => simp
  | succ n ih =>
    have up : (String.join (List.replicate (n + 1) "../") ++ r).toList =
        ['.', '.'] ++ '/' :: (String.join (List.replicate n "../") ++ r).toList := by
      simp [List.replicate_succ]
    rw [up, components_append_cons, ih]
    rfl

theorem rootOf_ups {r : String} (relative : rootOf r.toList = "") (n : Nat) :
    rootOf (String.join (List.replicate n "../") ++ r).toList = "" := by
  cases n with
  | zero => simpa using relative
  | succ n =>
    rw [rootOf_eq_empty_iff]
    simp [List.replicate_succ]

/-- The directories between a name that descends and the root of the tree. -/
theorem depth_of_descends (descends : Descends name)
    (last : isMeaningful (lastPart name.toList) = true) :
    (ofString name).depth = (leading name.toList).length + 1 := by
  rw [depth, ofString, components_eq, if_pos last, descends.relative]
  simp

/-- A path from the root of the tree, behind a pair of dots for every directory down to a file, leads
from the file to where it leads from the root. -/
theorem seenFrom_ups (ending : IsEnding tail.toList) (descends : Descends name) {r : String}
    (relative : rootOf r.toList = "") :
    seenFrom (name ++ tail)
        (String.join (List.replicate (leading name.toList).length "../") ++ r) =
      (ofString r).place := by
  rw [seenFrom_append ending descends (rootOf_ups relative _), components_ups, List.foldl_append,
    Place.foldl_step_up (Nat.le_refl _), ofString, relative]
  simp [place]

end

end RpcBindings.Path
