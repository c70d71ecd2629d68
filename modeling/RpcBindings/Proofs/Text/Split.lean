import RpcBindings.Text.Split

/-! Splitting a text that is known to hold a separator at a place, and one that is put together. -/
namespace RpcBindings.Text

variable {sep : Char}

theorem split_of_not_mem {s : List Char} (none : sep ∉ s) : split sep s = [s] := by
  induction s with
  | nil => rfl
  | cons c s ih =>
    obtain ⟨other, later⟩ := not_or.mp (mt List.mem_cons.mpr none)
    rw [split, if_neg (Ne.symm other), ih later]

theorem split_cons_sep (s : List Char) : split sep (sep :: s) = [] :: split sep s := if_pos rfl

/-- The text before the first separator is a part of its own. -/
theorem split_append_sep {s : List Char} (none : sep ∉ s) (t : List Char) :
    split sep (s ++ sep :: t) = s :: split sep t := by
  induction s with
  | nil => exact split_cons_sep t
  | cons c s ih =>
    obtain ⟨other, later⟩ := not_or.mp (mt List.mem_cons.mpr none)
    rw [List.cons_append, split, if_neg (Ne.symm other), ih later]

theorem split_append_cons (s t : List Char) :
    split sep (s ++ sep :: t) = split sep s ++ split sep t := by
  induction s with
  | nil => rw [List.nil_append, split_cons_sep]; rfl
  | cons c s ih =>
    rw [List.cons_append, split, split, ih]
    split
    · rfl
    · cases parts : split sep s with
      | nil => exact absurd parts (split_ne_nil sep s)
      | cons part rest => rfl

theorem not_mem_of_mem_split {s part : List Char} (member : part ∈ split sep s) : sep ∉ part := by
  induction s generalizing part with
  | nil => simp_all [split]
  | cons c s ih =>
    rw [split] at member
    split at member
    · rcases List.mem_cons.mp member with rfl | later
      · exact List.not_mem_nil
      · exact ih later
    · rename_i other
      cases parts : split sep s with
      | nil => exact absurd parts (split_ne_nil sep s)
      | cons first rest =>
        rw [parts] at member ih
        rcases List.mem_cons.mp member with rfl | later
        · exact mt List.mem_cons.mp (not_or.mpr ⟨Ne.symm other, ih List.mem_cons_self⟩)
        · exact ih (List.mem_cons_of_mem _ later)

theorem join_cons_cons (between part next : List Char) (rest : List (List Char)) :
    join between (part :: next :: rest) = part ++ between ++ join between (next :: rest) := rfl

theorem join_append_sep {parts : List (List Char)} (some : parts ≠ []) :
    join [sep] parts ++ [sep] = parts.flatMap (· ++ [sep]) := by
  induction parts with
  | nil => exact absurd rfl some
  | cons part rest ih =>
    cases rest with
    | nil => simp [join]
    | cons next rest =>
      rw [join_cons_cons, List.append_assoc, ih (List.cons_ne_nil next rest), List.flatMap_cons (x := part)]

theorem join_cons (part : List Char) (rest : List (List Char)) :
    join [sep] (part :: rest) = part ++ rest.flatMap (sep :: ·) := by
  induction rest generalizing part with
  | nil => simp [join]
  | cons next rest ih => simp [join_cons_cons, ih]

/-- Parts that are put together with separators are the parts again. -/
theorem split_join {parts : List (List Char)} (some : parts ≠ [])
    (none : ∀ part ∈ parts, sep ∉ part) : split sep (join [sep] parts) = parts := by
  induction parts with
  | nil => exact absurd rfl some
  | cons part rest ih =>
    obtain ⟨here, later⟩ := List.forall_mem_cons.mp none
    cases rest with
    | nil => exact split_of_not_mem here
    | cons next rest =>
      rw [join_cons_cons, List.append_assoc, List.singleton_append, split_append_sep here,
        ih (List.cons_ne_nil next rest) later]

theorem join_eq_intercalate (between : List Char) (parts : List (List Char)) :
    join between parts = between.intercalate parts := by
  induction parts with
  | nil => rfl
  | cons part rest ih =>
    cases rest with
    | nil => simp [join]
    | cons next rest => rw [join_cons_cons, ih, List.intercalate_cons_cons]

theorem cut_of_not_mem {s : List Char} (none : sep ∉ s) (t : List Char) :
    cut sep (s ++ sep :: t) = (s, some t) := by
  induction s with
  | nil => simp [cut]
  | cons c s ih =>
    obtain ⟨other, later⟩ := not_or.mp (mt List.mem_cons.mpr none)
    rw [List.cons_append, cut, if_neg (Ne.symm other), ih later]

theorem cut_front (sep : Char) (s : List Char) : (cut sep s).1 = s.takeWhile (· ≠ sep) := by
  induction s with
  | nil => rfl
  | cons c s ih => by_cases here : c = sep <;> simp [cut, here, ih]

theorem cut_back (sep : Char) (s : List Char) :
    (cut sep s).2.getD [] = (s.dropWhile (· ≠ sep)).tail := by
  induction s with
  | nil => rfl
  | cons c s ih => by_cases here : c = sep <;> simp [cut, here, ih]

/-- If a row is cut at two of its separators, the longer of the fronts is the shorter one, the
separator, and the start of what stands behind it. -/
theorem append_sep_cases {α : Type} {sep : α} {front other back rest : List α}
    (same : front ++ sep :: back = other ++ sep :: rest) (differ : front ≠ other) :
    (∃ more, other = front ++ sep :: more ∧ back = more ++ sep :: rest) ∨
      ∃ more, front = other ++ sep :: more ∧ rest = more ++ sep :: back := by
  have cut {a b x y : List α} (unlike : a ≠ b) {more : List α} (longer : b = a ++ more)
      (whole : sep :: x = more ++ sep :: y) : ∃ more, b = a ++ sep :: more ∧ x = more ++ sep :: y := by
    cases more with
    | nil =>
      rw [List.append_nil] at longer
      exact absurd longer.symm unlike
    | cons c more =>
      obtain ⟨rfl, tail⟩ := List.cons.inj whole
      exact ⟨more, longer, tail⟩
  rcases List.append_eq_append_iff.mp same with ⟨more, longer, whole⟩ | ⟨more, longer, whole⟩
  · exact .inl (cut differ longer whole)
  · exact .inr (cut differ.symm longer whole)

end RpcBindings.Text
