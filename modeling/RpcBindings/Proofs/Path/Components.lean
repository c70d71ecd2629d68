import Mathlib.Data.List.DropRight
import RpcBindings.Path
import RpcBindings.Proofs.Text.Split

/-! How the components of a path lie in its text: those before the last slash, which the directory of
the path is made of, and what stands behind it. What is added to the end of a text without a slash
lengthens the last component and leaves the others as they are. -/
namespace RpcBindings.Path

open Text

/-- The components before the last slash. -/
def leading (s : List Char) : List String :=
  ((split '/' s).dropLast.filter isMeaningful).map String.ofList

/-- The text behind the last slash. -/
def lastPart (s : List Char) : List Char := (split '/' s).getLastD []

/-- What can end a name: more than two characters, none of them a slash. -/
structure IsEnding (tail : List Char) : Prop where
  free : '/' ∉ tail
  long : 2 < tail.length

section

variable {s t last tail : List Char}

/-! ### Cutting at the last slash -/

theorem slash_cases (s : List Char) :
    '/' ∉ s ∨ ∃ t last, s = t ++ '/' :: last ∧ '/' ∉ last := by
  by_cases slash : '/' ∈ s
  · obtain ⟨after, before, split, none⟩ := List.eq_append_cons_of_mem (List.mem_reverse.mpr slash)
    refine .inr ⟨before.reverse, after.reverse, ?_, by simpa using none⟩
    rw [← List.reverse_reverse s, split]
    simp
  · exact .inl slash

@[simp] theorem components_nil : components [] = [] := rfl

theorem components_append_cons (s t : List Char) :
    components (s ++ '/' :: t) = components s ++ components t := by
  simp only [components, split_append_cons, List.filter_append, List.map_append]

theorem components_of_not_mem (none : '/' ∉ s) :
    components s = if isMeaningful s then [String.ofList s] else [] := by
  rw [components, split_of_not_mem none]
  by_cases meaning : isMeaningful s = true <;> simp [meaning]

theorem leading_of_not_mem (none : '/' ∉ s) : leading s = [] := by
  rw [leading, split_of_not_mem none]
  rfl

theorem lastPart_of_not_mem (none : '/' ∉ s) : lastPart s = s := by
  rw [lastPart, split_of_not_mem none]
  rfl

theorem leading_append_cons (none : '/' ∉ last) : leading (t ++ '/' :: last) = components t := by
  rw [leading, split_append_cons, split_of_not_mem none, List.dropLast_concat, components]

theorem lastPart_append_cons (none : '/' ∉ last) : lastPart (t ++ '/' :: last) = last := by
  rw [lastPart, split_append_cons, split_of_not_mem none, List.getLastD_concat]

theorem lastPart_free (s : List Char) : '/' ∉ lastPart s := by
  rcases slash_cases s with none | ⟨t, last, rfl, none⟩
  · rwa [lastPart_of_not_mem none]
  · rwa [lastPart_append_cons none]

theorem components_eq (s : List Char) :
    components s =
      leading s ++ if isMeaningful (lastPart s) then [String.ofList (lastPart s)] else [] := by
  rcases slash_cases s with none | ⟨t, last, rfl, none⟩
  · rw [leading_of_not_mem none, lastPart_of_not_mem none, components_of_not_mem none, List.nil_append]
  · rw [leading_append_cons none, lastPart_append_cons none, components_append_cons,
      components_of_not_mem none]

/-! ### Adding to the end -/

theorem leading_append (none : '/' ∉ tail) (s : List Char) : leading (s ++ tail) = leading s := by
  rcases slash_cases s with free | ⟨t, last, rfl, free⟩
  · rw [leading_of_not_mem free, leading_of_not_mem (by simp [free, none])]
  · rw [List.append_assoc, List.cons_append, leading_append_cons free,
      leading_append_cons (by simp [free, none])]

theorem lastPart_append (none : '/' ∉ tail) (s : List Char) :
    lastPart (s ++ tail) = lastPart s ++ tail := by
  rcases slash_cases s with free | ⟨t, last, rfl, free⟩
  · rw [lastPart_of_not_mem free, lastPart_of_not_mem (by simp [free, none])]
  · rw [List.append_assoc, List.cons_append, lastPart_append_cons free,
      lastPart_append_cons (by simp [free, none])]

/-- With an ending the text behind the last slash is a component, and no pair of dots. -/
theorem IsEnding.isMeaningful (ending : IsEnding tail) (s : List Char) :
    isMeaningful (s ++ tail) = true := by
  have long := ending.long
  have more : 2 < (s ++ tail).length := by rw [List.length_append]; omega
  match s ++ tail, more with
  | [], more => simp at more
  | [_], more => simp at more
  | _ :: _ :: _, _ => simp [Path.isMeaningful]

theorem IsEnding.ne_up (ending : IsEnding tail) (s : List Char) : String.ofList (s ++ tail) ≠ ".." := by
  intro same
  have long := ending.long
  have length := congrArg (·.toList.length) same
  simp at length
  omega

/-- The components of a name with an ending. -/
theorem components_append (ending : IsEnding tail) (s : List Char) :
    components (s ++ tail) = leading s ++ [String.ofList (lastPart s ++ tail)] := by
  rw [components_eq, leading_append ending.free, lastPart_append ending.free,
    if_pos (ending.isMeaningful _)]

/-! ### The root -/

theorem rootOf_eq_empty_iff : rootOf s = "" ↔ s.head? ≠ some '/' := by
  cases s with
  | nil => simp [rootOf]
  | cons c rest =>
    by_cases slash : c = '/'
    · subst slash
      simp only [rootOf, List.takeWhile_cons]
      split <;> simp_all
    · simp [rootOf, slash]

/-- A text is a path from the root by its first character. -/
theorem rootOf_append (none : '/' ∉ tail) (s : List Char) :
    rootOf (s ++ tail) = "" ↔ rootOf s = "" := by
  rw [rootOf_eq_empty_iff, rootOf_eq_empty_iff]
  cases s with
  | nil =>
    have other : tail.head? ≠ some '/' := fun here => none (List.mem_of_mem_head? here)
    simpa using other
  | cons c rest => rfl

/-! ### The directory of a path -/

/-- Slashes at the end of a text are nothing to its components. -/
theorem components_rdropWhile (s : List Char) :
    components (s.rdropWhile (· == '/')) = components s := by
  induction s using List.reverseRecOn with
  | nil => rfl
  | append_singleton s c ih =>
    by_cases slash : c = '/'
    · subst slash
      rw [List.rdropWhile_concat_pos _ _ _ rfl, ih, components_append_cons, components_nil,
        List.append_nil]
    · rw [List.rdropWhile_concat_neg _ _ _ (by simpa using slash)]

/-- What stands up to the last slash. -/
def head (s : List Char) : List Char := s.rdropWhile (· != '/')

theorem components_head (s : List Char) : components (head s) = leading s := by
  induction s using List.reverseRecOn with
  | nil => rfl
  | append_singleton s c ih =>
    by_cases slash : c = '/'
    · subst slash
      rw [head, List.rdropWhile_concat_neg _ _ _ (by simp), components_append_cons, components_nil,
        List.append_nil, leading_append_cons List.not_mem_nil]
    · rw [head, List.rdropWhile_concat_pos _ _ _ (by simpa using slash),
        leading_append (by simpa using Ne.symm slash)]
      exact ih

theorem directoryOf_eq (s : List Char) : directoryOf s =
    if (head s).all (· == '/') then head s else (head s).rdropWhile (· == '/') := rfl

/-- The directory of a path is made of the components before the last slash. -/
theorem components_directoryOf (s : List Char) : components (directoryOf s) = leading s := by
  rw [directoryOf_eq, ← components_head s]
  split
  · rfl
  · exact components_rdropWhile (head s)

theorem directoryOf_prefix (s : List Char) : directoryOf s <+: s := by
  rw [directoryOf_eq]
  split
  · exact List.rdropWhile_prefix _ _
  · exact (List.rdropWhile_prefix _ _).trans (List.rdropWhile_prefix _ _)

theorem rootOf_directoryOf (relative : rootOf s = "") : rootOf (directoryOf s) = "" := by
  rw [rootOf_eq_empty_iff] at relative ⊢
  obtain ⟨rest, whole⟩ := directoryOf_prefix s
  intro start
  apply relative
  rw [← whole, List.head?_append, start]
  rfl

/-! ### Putting components together -/

/-- Whether a text is a component as it stands. -/
def IsComponent (part : String) : Prop := '/' ∉ part.toList ∧ isMeaningful part.toList = true

theorem isComponent_of_mem {part : String} (member : part ∈ components s) : IsComponent part := by
  obtain ⟨piece, kept, rfl⟩ := List.mem_map.mp member
  obtain ⟨listed, meaning⟩ := List.mem_filter.mp kept
  rw [IsComponent, String.toList_ofList]
  exact ⟨not_mem_of_mem_split listed, meaning⟩

/-- Components with slashes between them are the components again. -/
theorem components_intercalate {parts : List String} (all : ∀ part ∈ parts, IsComponent part) :
    components (String.intercalate "/" parts).toList = parts := by
  rw [String.toList_intercalate, ← join_eq_intercalate]
  cases parts with
  | nil => rfl
  | cons part rest =>
    have free : ∀ piece ∈ (part :: rest).map String.toList, '/' ∉ piece := by
      intro piece member
      obtain ⟨part, listed, rfl⟩ := List.mem_map.mp member
      exact (all part listed).1
    have kept : ((part :: rest).map String.toList).filter isMeaningful =
        (part :: rest).map String.toList := by
      refine List.filter_eq_self.mpr fun piece member => ?_
      obtain ⟨part, listed, rfl⟩ := List.mem_map.mp member
      exact (all part listed).2
    have slash : "/".toList = ['/'] := rfl
    rw [slash, components, split_join (by simp) free, kept, List.map_map]
    simp [Function.comp_def]

theorem rootOf_intercalate {parts : List String} (all : ∀ part ∈ parts, IsComponent part) :
    rootOf (String.intercalate "/" parts).toList = "" := by
  rw [rootOf_eq_empty_iff, String.toList_intercalate]
  cases parts with
  | nil => simp
  | cons part rest =>
    obtain ⟨⟨free, meaning⟩, -⟩ := List.forall_mem_cons.mp all
    obtain ⟨c, more, chars⟩ : ∃ c more, part.toList = c :: more := by
      cases chars : part.toList with
      | nil => rw [chars] at meaning; cases meaning
      | cons c more => exact ⟨c, more, rfl⟩
    have first : (List.intercalate "/".toList ((part :: rest).map String.toList)).head? = some c := by
      cases rest with
      | nil => simp [chars]
      | cons next rest => simp [List.intercalate_cons_cons, chars]
    rw [first]
    rintro ⟨⟩
    exact free (chars ▸ List.mem_cons_self)

end

end RpcBindings.Path
