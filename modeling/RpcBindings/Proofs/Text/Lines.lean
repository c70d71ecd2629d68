import RpcBindings.Proofs.Text.Blank
import RpcBindings.Proofs.Text.Split
import RpcBindings.Proofs.Text.Strip

/-! The lines of a text in its layout. They are those of the text, cut where blanks are, without the
empty ones at either end; so what is read off the lines one by one, whatever blanks end them and with
nothing read off an empty one, is the same before and after the layout. -/
namespace RpcBindings.Layout

open Text

variable {α : Type} {f : List Char → List α} {ls ms : List (List Char)}

/-! ### Runs of empty lines -/

theorem capBlank_cons_of_ne {line : List Char} (some : line ≠ []) (run : Nat)
    (rest : List (List Char)) : capBlank run (line :: rest) = line :: capBlank 0 rest := by
  cases line with
  | nil => exact absurd rfl some
  | cons c line => rfl

theorem capBlank_cons_nil (run : Nat) (rest : List (List Char)) :
    capBlank run ([] :: rest) =
      if run < 2 then [] :: capBlank (run + 1) rest else capBlank (run + 1) rest := rfl

theorem mem_of_mem_capBlank {line : List Char} {run : Nat} {lines : List (List Char)}
    (member : line ∈ capBlank run lines) : line ∈ lines := by
  induction lines generalizing run with
  | nil => cases member
  | cons first rest ih =>
    by_cases empty : first = []
    · subst empty
      rw [capBlank_cons_nil] at member
      split at member
      · rcases List.mem_cons.mp member with rfl | later
        · exact List.mem_cons_self
        · exact List.mem_cons_of_mem _ (ih later)
      · exact List.mem_cons_of_mem _ (ih member)
    · rw [capBlank_cons_of_ne empty] at member
      rcases List.mem_cons.mp member with rfl | later
      · exact List.mem_cons_self
      · exact List.mem_cons_of_mem _ (ih later)

/-- Only empty lines are left out. -/
theorem flatMap_capBlank (empty : f [] = []) (run : Nat) (lines : List (List Char)) :
    (capBlank run lines).flatMap f = lines.flatMap f := by
  induction lines generalizing run with
  | nil => rfl
  | cons first rest ih =>
    by_cases none : first = []
    · subst none
      rw [capBlank_cons_nil]
      split <;> simp [empty, ih]
    · rw [capBlank_cons_of_ne none, List.flatMap_cons, List.flatMap_cons, ih]

/-! ### Texts of whole lines -/

/-- Lines, each with its line feed. -/
def unlines (ls : List (List Char)) : List Char := ls.flatMap fun line => line ++ ['\n']

@[simp] theorem unlines_nil : unlines [] = [] := rfl

@[simp] theorem unlines_cons (line : List Char) (ls : List (List Char)) :
    unlines (line :: ls) = line ++ '\n' :: unlines ls := by
  simp [unlines]

@[simp] theorem unlines_append (ls ms : List (List Char)) :
    unlines (ls ++ ms) = unlines ls ++ unlines ms := List.flatMap_append

theorem unlines_flatten (blocks : List (List (List Char))) :
    unlines blocks.flatten = (blocks.map unlines).flatten := by
  induction blocks with
  | nil => rfl
  | cons block blocks ih => rw [List.flatten_cons, unlines_append, ih, List.map_cons, List.flatten_cons]

theorem split_unlines (whole : ∀ l ∈ ls, '\n' ∉ l) : split '\n' (unlines ls) = ls ++ [[]] := by
  induction ls with
  | nil => rfl
  | cons line ls ih =>
    obtain ⟨here, later⟩ := List.forall_mem_cons.mp whole
    rw [unlines_cons, split_append_sep here, ih later, List.cons_append]

/-- Lines without line feeds in them can be told from their text. -/
theorem unlines_inj (first : ∀ l ∈ ls, '\n' ∉ l) (second : ∀ l ∈ ms, '\n' ∉ l)
    (same : unlines ls = unlines ms) : ls = ms := by
  have cut := congrArg (split '\n') same
  rw [split_unlines first, split_unlines second] at cut
  exact List.append_cancel_right cut

theorem feed_prefix_iff (whole : ∀ l ∈ ls, '\n' ∉ l) :
    ['\n'] <+: unlines ls ↔ ls.head? = some [] := by
  cases ls with
  | nil => simp
  | cons line ls =>
    have free := whole line List.mem_cons_self
    cases line with
    | nil => simp
    | cons c line =>
      have other : '\n' ≠ c := fun feed => free (feed ▸ List.mem_cons_self)
      simp [other]

/-- Nothing is stripped off lines with something on the first and on the last of them but the last
line feed. -/
theorem stripNewlines_unlines (whole : ∀ l ∈ ls, '\n' ∉ l) (nonEmpty : ls ≠ [])
    (start : ls.head? ≠ some []) (closing : ls.getLast? ≠ some []) :
    stripNewlines (unlines ls) ++ ['\n'] = unlines ls := by
  obtain ⟨front, line, rfl⟩ := (List.eq_nil_or_concat' ls).resolve_left nonEmpty
  have filled : line ≠ [] := fun empty => closing (by simp [empty])
  have body : unlines (front ++ [line]) = (unlines front ++ line) ++ ['\n'] := by simp
  have kept : strip (· == '\n') (unlines front ++ line) = unlines front ++ line := by
    refine strip_of_ends (fun c first => ?_) (fun c last => ?_)
    · obtain ⟨rest, shape⟩ := List.head?_eq_some_iff.mp first
      refine beq_false_of_ne fun feed => start ((feed_prefix_iff whole).mp ⟨rest ++ ['\n'], ?_⟩)
      rw [body, shape, feed, List.cons_append, List.cons_append]
      rfl
    · rw [List.getLast?_append_of_ne_nil _ filled] at last
      have free := whole line (by simp)
      exact beq_false_of_ne fun feed => free (feed ▸ List.mem_of_getLast? last)
  have stripped : stripNewlines (unlines front ++ line ++ ['\n']) =
      strip (· == '\n') ([] ++ (unlines front ++ line) ++ ['\n']) := rfl
  rw [body, stripped, strip_append (by simp) (by simp), kept]

/-! ### The lines that are left -/

/-- Lines in their layout: without blanks at their ends, and with at most two empty ones in a row. -/
def neat (ls : List (List Char)) : List (List Char) := capBlank 0 (ls.map trimEnd)

theorem mem_of_mem_neat {line : List Char} (member : line ∈ neat ls) : ∃ l ∈ ls, line = trimEnd l := by
  obtain ⟨l, listed, rfl⟩ := List.mem_map.mp (mem_of_mem_capBlank member)
  exact ⟨l, listed, rfl⟩

theorem not_mem_of_mem_neat (whole : ∀ l ∈ ls, '\n' ∉ l) : ∀ l ∈ neat ls, '\n' ∉ l := by
  intro line member
  obtain ⟨l, listed, rfl⟩ := mem_of_mem_neat member
  exact fun inside => whole l listed (mem_of_mem_trimEnd inside)

/-- The lines that the layout leaves of a text, none if all are blank. -/
def lines (s : List Char) : List (List Char) := strip List.isEmpty (neat (split '\n' s))

theorem infix_lines (s : List Char) : lines s <:+: neat (split '\n' s) := by
  obtain ⟨front, back, cut, -, -⟩ := strip_between List.isEmpty (neat (split '\n' s))
  exact ⟨front, back, cut.symm⟩

theorem not_mem_of_mem_lines (s : List Char) : ∀ l ∈ lines s, '\n' ∉ l := fun l member =>
  not_mem_of_mem_neat (fun _ listed => not_mem_of_mem_split listed) l ((infix_lines s).subset member)

theorem head?_lines (s : List Char) : (lines s).head? ≠ some [] := fun first => by
  simpa using head_strip _ _ _ first

theorem getLast?_lines (s : List Char) : (lines s).getLast? ≠ some [] := fun last => by
  simpa using last_strip _ _ _ last

theorem feeds_of_empty (empty : ∀ l ∈ ls, l.isEmpty = true) :
    ∀ c ∈ unlines ls, (c == '\n') = true := by
  intro c member
  obtain ⟨line, listed, inside⟩ := List.mem_flatMap.mp member
  rw [List.isEmpty_iff.mp (empty line listed)] at inside
  simpa using inside

/-- A text in its layout is the lines that are left, or a single empty one. -/
theorem tidy_eq (s : List Char) :
    tidy s = if lines s = [] then ['\n'] else unlines (lines s) := by
  obtain ⟨front, back, cut, before, behind⟩ := strip_between List.isEmpty (neat (split '\n' s))
  have joined (ls : List (List Char)) :
      stripNewlines (join ['\n'] ls) = stripNewlines (unlines ls) := by
    by_cases none : ls = []
    · rw [none]
      rfl
    · have ends : unlines ls = [] ++ join ['\n'] ls ++ ['\n'] := (join_append_sep none).symm
      rw [ends]
      exact (strip_append (by simp) (by simp)).symm
  have inner : stripNewlines (unlines (neat (split '\n' s))) = stripNewlines (unlines (lines s)) := by
    rw [cut, unlines_append, unlines_append]
    exact strip_append (feeds_of_empty before) (feeds_of_empty behind)
  have whole : tidy s = stripNewlines (unlines (lines s)) ++ ['\n'] := by
    rw [← inner, ← joined]
    rfl
  rw [whole]
  split
  next none => rw [none]; rfl
  next some =>
    exact stripNewlines_unlines (not_mem_of_mem_lines s) some (head?_lines s) (getLast?_lines s)

theorem split_tidy {s : List Char} (some : lines s ≠ []) :
    split '\n' (tidy s) = lines s ++ [[]] := by
  rw [tidy_eq, if_neg some, split_unlines (not_mem_of_mem_lines s)]

theorem flatMap_empty (none : f [] = []) (empty : ∀ l ∈ ls, l.isEmpty = true) :
    ls.flatMap f = [] :=
  List.flatMap_eq_nil_iff.mpr fun l member => by rw [List.isEmpty_iff.mp (empty l member), none]

theorem flatMap_lines (none : f [] = []) (s : List Char) :
    (lines s).flatMap f = (neat (split '\n' s)).flatMap f := by
  obtain ⟨front, back, cut, before, behind⟩ := strip_between List.isEmpty (neat (split '\n' s))
  rw [cut, List.flatMap_append, List.flatMap_append, flatMap_empty none before,
    flatMap_empty none behind, List.nil_append, List.append_nil]
  rfl

/-- What is read off the lines of a text in its layout, is read off those of the text. -/
theorem flatMap_tidy (empty : f [] = []) (trimmed : ∀ line, f (trimEnd line) = f line)
    (s : List Char) : (split '\n' (tidy s)).flatMap f = (split '\n' s).flatMap f := by
  have left : (split '\n' (tidy s)).flatMap f = (lines s).flatMap f := by
    by_cases none : lines s = []
    · rw [tidy_eq, if_pos none, none]
      simp [split, empty]
    · simp [split_tidy none, empty]
  calc (split '\n' (tidy s)).flatMap f
      = (neat (split '\n' s)).flatMap f := left.trans (flatMap_lines empty s)
    _ = ((split '\n' s).map trimEnd).flatMap f := flatMap_capBlank empty 0 _
    _ = (split '\n' s).flatMap f := by rw [List.flatMap_map]; simp only [trimmed]

end RpcBindings.Layout
