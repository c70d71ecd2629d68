import RpcBindings.Path

/-! Places that paths denote. Names are put behind one another, a pair of dots takes the last one away,
and the route from one place to another leads there. -/
namespace RpcBindings.Path

variable {place start target : Place} {parts : List String}

@[simp] theorem Place.rooted_step (place : Place) (part : String) :
    (place.step part).rooted = place.rooted := by
  rw [step]
  split
  · split
    · split <;> rfl
    · rfl
  · rfl

theorem Place.rooted_foldl (place : Place) (parts : List String) :
    (parts.foldl step place).rooted = place.rooted := by
  induction parts generalizing place with
  | nil => rfl
  | cons part rest ih => rw [List.foldl_cons, ih, rooted_step]

/-- No step leads back from a place above to one below. -/
theorem Place.above_le_step (place : Place) (part : String) :
    place.above ≤ (place.step part).above := by
  rw [step]
  split
  · split
    · split
      · exact Nat.le_refl _
      · exact Nat.le_succ _
    · exact Nat.le_refl _
  · exact Nat.le_refl _

theorem Place.above_le_foldl (place : Place) (parts : List String) :
    place.above ≤ (parts.foldl step place).above := by
  induction parts generalizing place with
  | nil => exact Nat.le_refl _
  | cons part rest ih => exact Nat.le_trans (place.above_le_step part) (ih (place.step part))

/-- Components without pairs of dots are the names of the place that they lead to. -/
theorem Place.foldl_step_names (down : ".." ∉ parts) :
    parts.foldl step place = { place with names := place.names ++ parts } := by
  induction parts generalizing place with
  | nil => simp
  | cons part rest ih =>
    obtain ⟨other, later⟩ := not_or.mp (mt List.mem_cons.mpr down)
    rw [List.foldl_cons, step, if_neg (Ne.symm other), ih later]
    simp

/-- Pairs of dots take away as many names. -/
theorem Place.foldl_step_up {n : Nat} (enough : n ≤ place.names.length) :
    (List.replicate n "..").foldl step place =
      { place with names := place.names.take (place.names.length - n) } := by
  induction n generalizing place with
  | zero => simp
  | succ n ih =>
    obtain ⟨rooted, above, names⟩ := place
    cases names with
    | nil => simp at enough
    | cons name names =>
      rw [List.replicate_succ, List.foldl_cons, step, if_pos rfl]
      dsimp only
      rw [ih (by simpa using enough)]
      simp only [List.dropLast_eq_take, List.length_take, List.take_take, List.length_cons]
      congr 2
      omega

/-- A path without pairs of dots denotes the place with its components as names. -/
theorem place_of_down {p : Path} (down : ".." ∉ p.parts) :
    p.place = ⟨p.root != "", 0, p.parts⟩ := Place.foldl_step_names down

theorem take_sharedLength (s t : List String) :
    s.take (sharedLength s t) = t.take (sharedLength s t) := by
  induction s generalizing t with
  | nil => cases t <;> rfl
  | cons a s ih =>
    cases t with
    | nil => rfl
    | cons b t =>
      rw [sharedLength]
      split
      next same => rw [same, List.take_succ_cons, List.take_succ_cons, ih]
      next => rfl

theorem sharedLength_le (s t : List String) : sharedLength s t ≤ s.length := by
  induction s generalizing t with
  | nil => cases t <;> exact Nat.le_refl 0
  | cons a s ih =>
    cases t with
    | nil => exact Nat.zero_le _
    | cons b t =>
      rw [sharedLength]
      split
      · exact Nat.succ_le_succ (ih t)
      · exact Nat.zero_le _

/-- The route between two places in one tree leads from the one to the other. -/
theorem Place.foldl_route (rooted : start.rooted = target.rooted) (above : start.above = target.above)
    (down : ".." ∉ target.names) : (start.route target).foldl step start = target := by
  have later : ".." ∉ target.names.drop (sharedLength start.names target.names) :=
    fun member => down (List.mem_of_mem_drop member)
  have shared := sharedLength_le start.names target.names
  rw [route, if_pos ⟨rooted, above⟩]
  dsimp only
  rw [List.foldl_append, foldl_step_up (Nat.sub_le _ _), foldl_step_names later]
  dsimp only
  rw [Nat.sub_sub_self shared, take_sharedLength, List.take_append_drop, rooted, above]

end RpcBindings.Path
