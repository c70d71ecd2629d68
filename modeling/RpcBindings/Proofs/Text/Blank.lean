import RpcBindings.Text.Blank

/-! Texts without blanks at their ends: when trimming leaves a text as it is, and what is trimmed of
two texts put together. -/
namespace RpcBindings.Text

theorem trimEnd_cons (c : Char) (s : List Char) :
    trimEnd (c :: s) = if trimEnd s = [] ∧ isBlank c = true then [] else c :: trimEnd s := by
  rw [trimEnd]
  cases trimEnd s with
  | nil => by_cases blank : isBlank c = true <;> simp [blank]
  | cons d kept => simp

/-- Of two texts put together the second one is trimmed, unless it is all blank. -/
theorem trimEnd_append (s t : List Char) :
    trimEnd (s ++ t) = if trimEnd t = [] then trimEnd s else s ++ trimEnd t := by
  induction s with
  | nil => by_cases empty : trimEnd t = [] <;> simp [empty, trimEnd]
  | cons c s ih =>
    rw [List.cons_append, trimEnd_cons, trimEnd_cons, ih]
    by_cases empty : trimEnd t = []
    · simp [empty]
    · simp [empty]

@[simp] theorem trimEnd_trimEnd (s : List Char) : trimEnd (trimEnd s) = trimEnd s := by
  induction s with
  | nil => rfl
  | cons c s ih =>
    rw [trimEnd_cons]
    split
    · rfl
    · rename_i kept
      rw [trimEnd_cons, ih, if_neg kept]

/-- What is trimmed away at the end is blank. -/
theorem trimEnd_append_blanks (s : List Char) :
    ∃ blanks, s = trimEnd s ++ blanks ∧ ∀ c ∈ blanks, isBlank c = true := by
  induction s with
  | nil => exact ⟨[], rfl, nofun⟩
  | cons c s ih =>
    obtain ⟨blanks, split, all⟩ := ih
    rw [trimEnd_cons]
    by_cases gone : trimEnd s = [] ∧ isBlank c = true
    · rw [if_pos gone]
      rw [gone.1, List.nil_append] at split
      exact ⟨c :: blanks, by rw [split]; rfl, List.forall_mem_cons.mpr ⟨gone.2, all⟩⟩
    · rw [if_neg gone]
      exact ⟨blanks, congrArg (c :: ·) split, all⟩

theorem mem_of_mem_trimEnd {c : Char} {s : List Char} (member : c ∈ trimEnd s) : c ∈ s := by
  obtain ⟨blanks, split, -⟩ := trimEnd_append_blanks s
  rw [split]
  exact List.mem_append_left _ member

theorem length_trim_le (s : List Char) : (trim s).length ≤ (trimStart s).length := by
  obtain ⟨blanks, split, -⟩ := trimEnd_append_blanks (trimStart s)
  have lengths := congrArg List.length split
  rw [List.length_append] at lengths
  rw [trim]
  omega

/-- A text without blanks at its ends. -/
def Trimmed (s : List Char) : Prop := trim s = s

instance (s : List Char) : Decidable (Trimmed s) := inferInstanceAs (Decidable (trim s = s))

theorem Trimmed.trimEnd_eq {s : List Char} (trimmed : Trimmed s) : trimEnd s = s := by
  rw [← trimmed, trim, trimEnd_trimEnd]

theorem Trimmed.head_not_blank {c : Char} {s : List Char} (trimmed : Trimmed (c :: s)) :
    isBlank c = false := by
  refine Bool.eq_false_iff.mpr fun blank => ?_
  have dropped : trimStart (c :: s) = trimStart s := List.dropWhile_cons_of_pos blank
  have shorter := length_trim_le (c :: s)
  rw [trimmed, dropped] at shorter
  have bound := (List.dropWhile_sublist (p := isBlank) (l := s)).length_le
  rw [List.length_cons, trimStart] at shorter
  omega

theorem trimmed_of_forall {s : List Char} (none : ∀ c ∈ s, isBlank c = false) : Trimmed s := by
  have start : trimStart s = s := by
    cases s with
    | nil => rfl
    | cons c s => exact List.dropWhile_cons_of_neg (by simp [none c])
  obtain ⟨blanks, cut, all⟩ := trimEnd_append_blanks s
  have ends : blanks = [] := List.eq_nil_iff_forall_not_mem.mpr fun c member => by
    have here := none c (cut ▸ List.mem_append_right _ member)
    rw [all c member] at here
    cases here
  rw [ends, List.append_nil] at cut
  rw [Trimmed, trim, start, ← cut]

/-- Texts without blanks at their ends, put together with a character between them that is none. -/
theorem Trimmed.append_cons {s t : List Char} {c : Char} (first : Trimmed s) (second : Trimmed t)
    (here : isBlank c = false) : Trimmed (s ++ c :: t) := by
  have start : trimStart (s ++ c :: t) = s ++ c :: t := by
    cases s with
    | nil => exact List.dropWhile_cons_of_neg (by simp [here])
    | cons d s => exact List.dropWhile_cons_of_neg (by simp [first.head_not_blank])
  have kept : trimEnd (c :: t) = c :: t := by
    rw [trimEnd_cons, second.trimEnd_eq, if_neg (by simp [here])]
  rw [Trimmed, trim, start, trimEnd_append, kept, if_neg (List.cons_ne_nil c t)]

end RpcBindings.Text
