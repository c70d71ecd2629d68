/-! Entries in order: values by name, where a name that is set again keeps its place. -/
namespace RpcBindings

variable {κ α : Type} [DecidableEq κ]

/-- Sets a name: a new one goes to the end, a known one keeps its place. -/
def putEntry (key : κ) (value : α) : List (κ × α) → List (κ × α)
  | [] => [(key, value)]
  | (k, v) :: rest => if k = key then (k, value) :: rest else (k, v) :: putEntry key value rest

/-- Sets the names of a second list of entries one after the other. -/
def putEntries (entries updates : List (κ × α)) : List (κ × α) :=
  updates.foldl (fun acc update => putEntry update.1 update.2 acc) entries

/-- The name that is set has the new value, all others have what they had. -/
theorem lookup_putEntry (key : κ) (value : α) (entries : List (κ × α)) (name : κ) :
    (putEntry key value entries).lookup name =
      if name = key then some value else entries.lookup name := by
  induction entries with
  | nil =>
    by_cases h : name = key
    · simp [putEntry, h]
    · simp [putEntry, h, List.lookup_cons, beq_false_of_ne h]
  | cons entry rest ih =>
    obtain ⟨k, v⟩ := entry
    rw [putEntry]
    by_cases hk : k = key
    · subst hk
      by_cases h : name = k
      · simp [h]
      · simp [h, List.lookup_cons, beq_false_of_ne h]
    · rw [if_neg hk, List.lookup_cons, List.lookup_cons, ih]
      by_cases h : name = k
      · subst h; simp [hk]
      · simp [beq_false_of_ne h]

/-- The last value that is set counts. -/
theorem lookup_putEntries (entries updates : List (κ × α)) (name : κ) :
    (putEntries entries updates).lookup name =
      (updates.reverse.lookup name).or (entries.lookup name) := by
  induction updates generalizing entries with
  | nil => simp [putEntries]
  | cons update rest ih =>
    obtain ⟨key, value⟩ := update
    have step : putEntries entries ((key, value) :: rest) =
        putEntries (putEntry key value entries) rest := rfl
    rw [step, ih, lookup_putEntry, List.reverse_cons, List.lookup_append, Option.or_assoc]
    by_cases h : name = key
    · simp [h]
    · simp [h, List.lookup_cons, beq_false_of_ne h]

/-- A known name keeps its place and a new one is the last. -/
theorem keys_putEntry (key : κ) (value : α) (entries : List (κ × α)) :
    (putEntry key value entries).map (·.1) =
      if key ∈ entries.map (·.1) then entries.map (·.1) else entries.map (·.1) ++ [key] := by
  induction entries with
  | nil => simp [putEntry]
  | cons entry rest ih =>
    obtain ⟨k, v⟩ := entry
    rw [putEntry]
    by_cases hk : k = key
    · subst hk; simp
    · have other : ¬ key = k := fun h => hk h.symm
      rw [if_neg hk, List.map_cons, ih]
      by_cases known : key ∈ rest.map (·.1) <;> simp_all

theorem nodup_putEntry (key : κ) (value : α) {entries : List (κ × α)}
    (distinct : (entries.map (·.1)).Nodup) : ((putEntry key value entries).map (·.1)).Nodup := by
  rw [keys_putEntry]
  split
  case isTrue => exact distinct
  case isFalse new => simpa [List.nodup_append, distinct] using fun name listed => ne_of_mem_of_not_mem listed new

theorem nodup_putEntries {entries : List (κ × α)} (updates : List (κ × α))
    (distinct : (entries.map (·.1)).Nodup) : ((putEntries entries updates).map (·.1)).Nodup := by
  induction updates generalizing entries with
  | nil => exact distinct
  | cons update rest ih => exact ih (nodup_putEntry update.1 update.2 distinct)

end RpcBindings
