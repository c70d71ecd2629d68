import RpcBindings.Generator

/-! The elements of a row, each where it occurs first. They are told apart by where that is: one stays
before another if some place of it lies before all places of the other. The full names that a file
imports are such a row, in order. -/
namespace RpcBindings

namespace Stub

variable {α β π : Type} [DecidableEq α] [DecidableEq β]

theorem mem_firstOccurrences {x : α} {seen row : List α}
    (member : x ∈ firstOccurrences seen row) : x ∈ row := by
  induction row generalizing seen with
  | nil => cases member
  | cons y rest ih =>
    rw [firstOccurrences] at member
    split at member
    · exact List.mem_cons_of_mem _ (ih member)
    · rcases List.mem_cons.mp member with rfl | later
      · exact List.mem_cons_self
      · exact List.mem_cons_of_mem _ (ih later)

theorem mem_firstOccurrences_of_mem {x : α} {seen row : List α}
    (member : x ∈ row) (fresh : x ∉ seen) : x ∈ firstOccurrences seen row := by
  induction row generalizing seen with
  | nil => cases member
  | cons y rest ih =>
    rw [firstOccurrences]
    split
    case isTrue known =>
      apply ih _ fresh
      rcases List.mem_cons.mp member with rfl | later
      · exact absurd known fresh
      · exact later
    case isFalse =>
      by_cases same : x = y
      · exact same ▸ List.mem_cons_self
      · have later : x ∈ rest := List.mem_of_ne_of_mem same member
        apply List.mem_cons_of_mem
        exact ih later (List.not_mem_cons_of_ne_of_not_mem same fresh)

@[simp] theorem mem_firstOccurrences_nil {x : α} {row : List α} :
    x ∈ firstOccurrences [] row ↔ x ∈ row :=
  ⟨mem_firstOccurrences, fun member => mem_firstOccurrences_of_mem member List.not_mem_nil⟩

theorem not_mem_of_mem_firstOccurrences {x : α} {seen row : List α}
    (member : x ∈ firstOccurrences seen row) : x ∉ seen := by
  induction row generalizing seen with
  | nil => cases member
  | cons y rest ih =>
    rw [firstOccurrences] at member
    split at member
    · exact ih member
    next fresh =>
      rcases List.mem_cons.mp member with rfl | later
      · exact fresh
      · exact fun known => ih later (List.mem_cons_of_mem _ known)

theorem nodup_firstOccurrences (seen row : List α) : (firstOccurrences seen row).Nodup := by
  induction row generalizing seen with
  | nil => exact List.nodup_nil
  | cons y rest ih =>
    rw [firstOccurrences]
    split
    · exact ih seen
    · refine List.nodup_cons.mpr ⟨fun later => ?_, ih (y :: seen)⟩
      exact not_mem_of_mem_firstOccurrences later List.mem_cons_self

/-- What is first of its kind stays so under another name, as long as names are told apart. -/
theorem firstOccurrences_map {f : α → β} {all seen row : List α}
    (apart : ∀ x ∈ all, ∀ y ∈ all, f x = f y → x = y) (known : seen ⊆ all) (listed : row ⊆ all) :
    firstOccurrences (seen.map f) (row.map f) = (firstOccurrences seen row).map f := by
  induction row generalizing seen with
  | nil => rfl
  | cons x rest ih =>
    obtain ⟨here, later⟩ := List.cons_subset.mp listed
    have seen_iff : f x ∈ seen.map f ↔ x ∈ seen := by
      refine ⟨fun member => ?_, fun member => List.mem_map_of_mem member⟩
      obtain ⟨y, earlier, same⟩ := List.mem_map.mp member
      exact apart y (known earlier) x here same ▸ earlier
    rw [List.map_cons, firstOccurrences, firstOccurrences]
    by_cases earlier : x ∈ seen
    · rw [if_pos earlier, if_pos (seen_iff.mpr earlier), ih known later]
    · rw [if_neg earlier, if_neg (mt seen_iff.mp earlier), List.map_cons, ← List.map_cons,
        ih (List.cons_subset.mpr ⟨here, known⟩) later]

/-- Whether an element of a row whose elements have places occurs before another: at some place that
lies before every place of the other. -/
def OccursBefore (before : π → π → Prop) (placed : List (π × α)) (x y : α) : Prop :=
  ∃ place, (place, x) ∈ placed ∧ ∀ later, (later, y) ∈ placed → before place later

/-- In a row whose places rise, what is first of its kind comes in the order of first places. -/
theorem pairwise_firstOccurrences {before : π → π → Prop} {placed : List (π × α)}
    (rising : placed.Pairwise fun a b => before a.1 b.1) (seen : List α) :
    (firstOccurrences seen (placed.map (·.2))).Pairwise (OccursBefore before placed) := by
  induction placed generalizing seen with
  | nil => exact .nil
  | cons here rest ih =>
    obtain ⟨first, later⟩ := List.pairwise_cons.mp rising
    -- An element that is not the one here has its places among the rest.
    have widen (seen : List α) (known : here.2 ∈ seen) :
        (firstOccurrences seen (rest.map (·.2))).Pairwise (OccursBefore before (here :: rest)) := by
      refine (ih later seen).imp_of_mem fun {x y} _ listed earlier => ?_
      obtain ⟨place, occurs, all⟩ := earlier
      refine ⟨place, List.mem_cons_of_mem _ occurs, fun other found => ?_⟩
      rcases List.mem_cons.mp found with rfl | found
      · exact absurd known (not_mem_of_mem_firstOccurrences listed)
      · exact all other found
    rw [List.map_cons, firstOccurrences]
    split
    case isTrue known => exact widen seen known
    case isFalse =>
      refine .cons (fun y listed => ?_) (widen _ List.mem_cons_self)
      refine ⟨here.1, List.mem_cons_self, fun other found => ?_⟩
      rcases List.mem_cons.mp found with rfl | found
      · exact absurd List.mem_cons_self (not_mem_of_mem_firstOccurrences listed)
      · exact first _ found

end Stub

/-- The types that a file imports are those of its external types that it has to. -/
theorem Generator.mem_typeImports {file : Stub.File} {s : Text.CodePoints} :
    s ∈ typeImports file ↔ ∃ t ∈ file.externalTypes, isImported file t = true ∧
      s = (t.package.value file.standIn).asText ++ .string ("." ++ t.name) := by
  simp only [typeImports, Text.mem_sortedCodes, Stub.mem_firstOccurrences_nil, List.mem_map,
    List.mem_filter, and_assoc, eq_comm]

end RpcBindings
