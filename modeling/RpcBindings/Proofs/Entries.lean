import Mathlib.Data.List.Nodup
import RpcBindings.Entries

/-! Entries whose names are all different, so that a name has one value: what stands in them, and what
becomes of names and values when others are set. -/
namespace RpcBindings

variable {κ α : Type} {entries updates : List (κ × α)} {name key : κ} {value : α}

theorem mem_of_lookup [BEq κ] [LawfulBEq κ] (found : entries.lookup name = some value) :
    (name, value) ∈ entries := by
  obtain ⟨before, after, rfl, -⟩ := List.lookup_eq_some_iff.mp found
  exact List.mem_append_right _ List.mem_cons_self

variable [DecidableEq κ]

/-- Only where names are all different is each entry the one that is found. -/
theorem lookup_iff_mem (distinct : (entries.map (·.1)).Nodup) :
    entries.lookup name = some value ↔ (name, value) ∈ entries := by
  refine ⟨mem_of_lookup, fun member => ?_⟩
  obtain ⟨before, after, rfl⟩ := List.append_of_mem member
  rw [List.map_append, List.map_cons] at distinct
  refine List.lookup_eq_some_iff.mpr ⟨before, after, rfl, fun other early => bne_iff_ne.mpr ?_⟩
  rintro rfl
  exact List.disjoint_of_nodup_append distinct (List.mem_map_of_mem early) List.mem_cons_self

theorem mem_names_iff : name ∈ entries.map (·.1) ↔ ∃ value, entries.lookup name = some value := by
  constructor
  · intro listed
    obtain ⟨entry, member, rfl⟩ := List.mem_map.mp listed
    exact Option.isSome_iff_exists.mp (List.lookup_isSome_iff.mpr ⟨entry, member, beq_self_eq_true _⟩)
  · rintro ⟨value, found⟩
    exact List.mem_map_of_mem (mem_of_lookup found)

theorem lookup_eq_none_iff_not_mem : entries.lookup name = none ↔ name ∉ entries.map (·.1) := by
  rw [mem_names_iff, Option.eq_none_iff_forall_ne_some]
  simp only [not_exists, ne_eq]

/-! ### Setting names -/

theorem putEntry_of_new (new : key ∉ entries.map (·.1)) (value : α) :
    putEntry key value entries = entries ++ [(key, value)] := by
  induction entries with
  | nil => rfl
  | cons entry rest ih =>
    obtain ⟨other, later⟩ := not_or.mp (mt List.mem_cons.mpr new)
    rw [putEntry, if_neg (Ne.symm other), ih later, List.cons_append]

theorem putEntries_cons (entries : List (κ × α)) (update : κ × α) (rest : List (κ × α)) :
    putEntries entries (update :: rest) = putEntries (putEntry update.1 update.2 entries) rest := rfl

theorem eq_or_mem_of_mem_putEntry {entry : κ × α} (member : entry ∈ putEntry key value entries) :
    entry = (key, value) ∨ entry ∈ entries := by
  induction entries with
  | nil => exact .inl (List.mem_singleton.mp member)
  | cons head rest ih =>
    rw [putEntry] at member
    by_cases same : head.1 = key
    · rw [if_pos same, same] at member
      exact (List.mem_cons.mp member).imp_right (List.mem_cons_of_mem head)
    · rw [if_neg same] at member
      rcases List.mem_cons.mp member with here | later
      · exact .inr (List.mem_cons.mpr (.inl here))
      · exact (ih later).imp_right (List.mem_cons_of_mem head)

/-- No entry is there but those that were there and those that are set. -/
theorem mem_of_mem_putEntries {entry : κ × α} (member : entry ∈ putEntries entries updates) :
    entry ∈ entries ∨ entry ∈ updates := by
  induction updates generalizing entries with
  | nil => exact .inl member
  | cons update rest ih =>
    rcases ih member with here | later
    · rcases eq_or_mem_of_mem_putEntry here with rfl | before
      · exact .inr List.mem_cons_self
      · exact .inl before
    · exact .inr (List.mem_cons_of_mem update later)

/-- Names that are all different are set in their order. -/
theorem putEntries_of_nodup (distinct : ((entries ++ updates).map (·.1)).Nodup) :
    putEntries entries updates = entries ++ updates := by
  induction updates generalizing entries with
  | nil => simp [putEntries]
  | cons update rest ih =>
    have new : update.1 ∉ entries.map (·.1) := by
      rw [List.map_append, List.map_cons] at distinct
      exact fun member => List.disjoint_of_nodup_append distinct member List.mem_cons_self
    rw [putEntries_cons, putEntry_of_new new, ih (by simpa using distinct), List.append_assoc]
    rfl

/-- The names that were there come first, and then those that are new, in the order in which they
are set. -/
theorem keys_putEntries (distinct : (updates.map (·.1)).Nodup) :
    (putEntries entries updates).map (·.1) =
      entries.map (·.1) ++ (updates.map (·.1)).filter fun key => key ∉ entries.map (·.1) := by
  induction updates generalizing entries with
  | nil => simp [putEntries]
  | cons update rest ih =>
    rw [List.map_cons, List.nodup_cons] at distinct
    obtain ⟨fresh, later⟩ := distinct
    have step := keys_putEntry update.1 update.2 entries
    rw [putEntries_cons, ih later, List.map_cons, List.filter_cons]
    by_cases known : update.1 ∈ entries.map (·.1)
    · rw [if_pos known] at step
      rw [step, if_neg (by simpa using known)]
    · rw [if_neg known] at step
      have others : ∀ key ∈ rest.map (·.1),
          decide (key ∉ (putEntry update.1 update.2 entries).map (·.1)) =
            decide (key ∉ entries.map (·.1)) := by
        intro key listed
        have other : key ≠ update.1 := ne_of_mem_of_not_mem listed fresh
        rw [step]
        simp [other]
      rw [List.filter_congr others, step, if_pos (by simpa using known), List.append_assoc]
      rfl

/-- Of names that are all different, each one that is set has its value. -/
theorem lookup_putEntries_of_nodup (distinct : (updates.map (·.1)).Nodup) :
    (putEntries entries updates).lookup name = (updates.lookup name).or (entries.lookup name) := by
  have turned : (updates.reverse.map (·.1)).Nodup := by
    rw [List.map_reverse]
    exact List.nodup_reverse.mpr distinct
  have same : updates.reverse.lookup name = updates.lookup name := by
    ext value
    rw [lookup_iff_mem turned, lookup_iff_mem distinct, List.mem_reverse]
  rw [lookup_putEntries, same]

/-! ### Setting names twice -/

theorem putEntries_append (entries first second : List (κ × α)) :
    putEntries entries (first ++ second) = putEntries (putEntries entries first) second :=
  List.foldl_append

theorem putEntry_putEntry (key : κ) (early late : α) (entries : List (κ × α)) :
    putEntry key late (putEntry key early entries) = putEntry key late entries := by
  induction entries with
  | nil => simp [putEntry]
  | cons entry rest ih =>
    by_cases same : entry.1 = key
    · simp [putEntry, same]
    · simp [putEntry, same, ih]

/-- A name that is there keeps its place, so another one can be set before or after it. -/
theorem putEntry_comm (known : key ∈ entries.map (·.1)) (other : name ≠ key) (value late : α) :
    putEntry name late (putEntry key value entries) =
      putEntry key value (putEntry name late entries) := by
  induction entries with
  | nil => cases known
  | cons entry rest ih =>
    by_cases same : entry.1 = key
    · subst same
      simp [putEntry, Ne.symm other]
    · have later : key ∈ rest.map (·.1) := by simpa [Ne.symm same] using known
      by_cases here : entry.1 = name
      · simp [putEntry, here, other]
      · simp [putEntry, same, here, ih later]

theorem putEntries_comm (known : key ∈ entries.map (·.1)) (unset : key ∉ updates.map (·.1))
    (value : α) :
    putEntries (putEntry key value entries) updates =
      putEntry key value (putEntries entries updates) := by
  induction updates generalizing entries with
  | nil => rfl
  | cons update rest ih =>
    obtain ⟨other, later⟩ := not_or.mp (mt List.mem_cons.mpr unset)
    have kept : key ∈ (putEntry update.1 update.2 entries).map (·.1) := by
      rw [keys_putEntry]
      split
      · exact known
      · exact List.mem_append_left _ known
    rw [putEntries_cons, putEntries_cons, putEntry_comm known (Ne.symm other), ih kept later]

/-- Setting a name in what is to be set is setting it last. -/
theorem putEntries_putEntry (distinct : (updates.map (·.1)).Nodup) (key : κ) (value : α)
    (entries : List (κ × α)) :
    putEntries entries (putEntry key value updates) =
      putEntry key value (putEntries entries updates) := by
  induction updates generalizing entries with
  | nil => rfl
  | cons update rest ih =>
    obtain ⟨fresh, later⟩ := List.nodup_cons.mp distinct
    by_cases same : update.1 = key
    · subst same
      have known : update.1 ∈ (putEntry update.1 update.2 entries).map (·.1) := by
        rw [keys_putEntry]
        split
        · assumption
        · simp
      rw [putEntry, if_pos rfl, putEntries_cons, putEntries_cons, ← putEntries_comm known fresh,
        putEntry_putEntry]
    · rw [putEntry, if_neg same, putEntries_cons, putEntries_cons, ih later]

/-- Setting names is associative: by induction on those that are set last. -/
theorem putEntries_assoc (distinct : (updates.map (·.1)).Nodup) (entries last : List (κ × α)) :
    putEntries entries (putEntries updates last) = putEntries (putEntries entries updates) last := by
  induction last generalizing updates with
  | nil => rfl
  | cons update rest ih =>
    rw [putEntries_cons, putEntries_cons, ih (nodup_putEntry update.1 update.2 distinct),
      putEntries_putEntry distinct]

/-- Names are set alike whether or not they were set among themselves before. -/
theorem putEntries_putEntries_nil (entries last : List (κ × α)) :
    putEntries entries (putEntries [] last) = putEntries entries last := by
  have none : (([] : List (κ × α)).map (·.1)).Nodup := List.nodup_nil
  exact putEntries_assoc none entries last

/-! ### Setting names, some of them looked at -/

theorem filter_putEntry (test : κ → Bool) (key : κ) (value : α) (entries : List (κ × α)) :
    (putEntry key value entries).filter (test ·.1) =
      if test key then putEntry key value (entries.filter (test ·.1))
      else entries.filter (test ·.1) := by
  induction entries with
  | nil => cases chosen : test key <;> simp [putEntry, chosen]
  | cons entry rest ih =>
    obtain ⟨k, v⟩ := entry
    rw [putEntry]
    by_cases same : k = key
    · subst same
      cases chosen : test k <;> simp [putEntry, chosen]
    · rw [if_neg same, List.filter_cons, List.filter_cons, ih]
      cases chosen : test key <;> cases listed : test k <;> simp [putEntry, same]

/-- What is set under some names is the same whether or not the others are set as well. -/
theorem filter_putEntries (test : κ → Bool) (entries updates : List (κ × α)) :
    (putEntries entries updates).filter (test ·.1) =
      putEntries (entries.filter (test ·.1)) (updates.filter (test ·.1)) := by
  induction updates generalizing entries with
  | nil => rfl
  | cons update rest ih =>
    rw [putEntries_cons, ih, filter_putEntry, List.filter_cons]
    cases test update.1 <;> simp [putEntries_cons]

/-! ### Names that are all given one value -/

theorem lookup_putEntries_const (names : List κ) (value : α) :
    (putEntries entries (names.map fun key => (key, value))).lookup name =
      if name ∈ names then some value else entries.lookup name := by
  rw [lookup_putEntries, ← List.map_reverse]
  split
  case isTrue listed =>
    obtain ⟨found, shown⟩ := mem_names_iff.mp
      (show name ∈ (names.reverse.map fun key => (key, value)).map (·.1) by simpa using listed)
    obtain ⟨key, -, same⟩ := List.mem_map.mp (mem_of_lookup shown)
    rw [shown, ← (Prod.mk.inj same).2, Option.some_or]
  case isFalse unlisted =>
    have absent : (names.reverse.map fun key => (key, value)).lookup name = none :=
      lookup_eq_none_iff_not_mem.mpr (by simpa using unlisted)
    rw [absent, Option.none_or]

end RpcBindings
