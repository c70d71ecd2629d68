import Mathlib.Data.List.Basic
import RpcBindings.Proofs.Text.Lines

/-! Texts that are put together from blocks of lines. In its layout a text of blocks is those of its
blocks one after the other, if each block has something on its last line: blank lines of one block
then have nothing to do with those of another. -/
namespace RpcBindings.Layout

open Text

variable {ls ms : List (List Char)}

/-! ### Lines with something on them -/

/-- Whether there is something on a line but blanks. -/
def Filled (line : List Char) : Prop := trimEnd line ≠ []

instance : DecidablePred Filled := fun line => inferInstanceAs (Decidable (trimEnd line ≠ []))

theorem filled_trimEnd {line : List Char} : Filled (trimEnd line) ↔ Filled line := by
  rw [Filled, Filled, trimEnd_trimEnd]

theorem filled_of_mem {c : Char} {line : List Char} (member : c ∈ line) (dark : isBlank c = false) :
    Filled line := by
  intro empty
  obtain ⟨blanks, cut, all⟩ := trimEnd_append_blanks line
  rw [empty, List.nil_append] at cut
  rw [cut] at member
  rw [all c member] at dark
  cases dark

/-- Behind a line with something on it, empty lines are counted anew. -/
theorem capBlank_append {line : List Char} (filled : line ≠ []) (run : Nat)
    (ls ms : List (List Char)) :
    capBlank run (ls ++ line :: ms) = capBlank run (ls ++ [line]) ++ capBlank 0 ms := by
  induction ls generalizing run with
  | nil =>
    rw [List.nil_append, List.nil_append, capBlank_cons_of_ne filled, capBlank_cons_of_ne filled]
    rfl
  | cons first ls ih =>
    rw [List.cons_append, List.cons_append]
    by_cases empty : first = []
    · subst empty
      rw [capBlank_cons_nil, capBlank_cons_nil]
      split
      · rw [ih, List.cons_append]
      · exact ih _
    · rw [capBlank_cons_of_ne empty, capBlank_cons_of_ne empty, ih, List.cons_append]

/-- Whether there is something on the last of some lines, if there are any. -/
def Closed (ls : List (List Char)) : Prop := ∀ l ∈ ls.getLast?, Filled l

theorem closed_nil : Closed [] := nofun

theorem Closed.append (first : Closed ls) (second : Closed ms) : Closed (ls ++ ms) := by
  intro line last
  rw [List.getLast?_append] at last
  cases there : ms.getLast? with
  | none =>
    rw [there] at last
    exact first line last
  | some l =>
    rw [there] at last
    exact second line (there ▸ last)

theorem closed_flatten {blocks : List (List (List Char))} (closed : ∀ b ∈ blocks, Closed b) :
    Closed blocks.flatten := by
  induction blocks with
  | nil => exact closed_nil
  | cons block blocks ih =>
    obtain ⟨here, later⟩ := List.forall_mem_cons.mp closed
    exact here.append (ih later)

theorem neat_append (closed : Closed ls) (ms : List (List Char)) :
    neat (ls ++ ms) = neat ls ++ neat ms := by
  rcases List.eq_nil_or_concat' ls with rfl | ⟨front, line, rfl⟩
  · rfl
  · have filled : trimEnd line ≠ [] := closed line (by simp)
    simp only [neat, List.map_append, List.map_cons, List.map_nil, List.append_assoc,
      List.singleton_append]
    exact capBlank_append filled 0 _ _

theorem neat_flatten {blocks : List (List (List Char))} (closed : ∀ b ∈ blocks, Closed b) :
    neat blocks.flatten = (blocks.map neat).flatten := by
  induction blocks with
  | nil => rfl
  | cons block blocks ih =>
    obtain ⟨here, later⟩ := List.forall_mem_cons.mp closed
    rw [List.flatten_cons, neat_append here, ih later, List.map_cons, List.flatten_cons]

/-- The last line of a block stays its last one. -/
theorem getLast?_neat (closed : Closed ls) : (neat ls).getLast? = ls.getLast?.map trimEnd := by
  rcases List.eq_nil_or_concat' ls with rfl | ⟨front, line, rfl⟩
  · rfl
  · have filled : trimEnd line ≠ [] := closed line (by simp)
    have last (run : Nat) (kept : List (List Char)) :
        (capBlank run (kept ++ [trimEnd line])).getLast? = some (trimEnd line) := by
      induction kept generalizing run with
      | nil => rw [List.nil_append, capBlank_cons_of_ne filled]; rfl
      | cons first kept ih =>
        rw [List.cons_append]
        by_cases empty : first = []
        · subst empty
          rw [capBlank_cons_nil]
          split
          · rw [List.getLast?_cons, ih]; rfl
          · exact ih _
        · rw [capBlank_cons_of_ne empty, List.getLast?_cons, ih]; rfl
    simpa [neat] using last 0 (front.map trimEnd)

theorem head?_neat (open_ : ∀ l ∈ ls.head?, Filled l) : (neat ls).head? = ls.head?.map trimEnd := by
  cases ls with
  | nil => rfl
  | cons line ls =>
    have filled : trimEnd line ≠ [] := open_ line rfl
    rw [neat, List.map_cons, capBlank_cons_of_ne filled]
    rfl

/-! ### Whole texts -/

theorem neat_ne_nil (some : ls ≠ []) (start : ∀ l ∈ ls.head?, Filled l) : neat ls ≠ [] := by
  intro none
  have first := head?_neat start
  rw [none, eq_comm, List.head?_nil, Option.map_eq_none_iff, List.head?_eq_none_iff] at first
  exact some first

/-- Of whole lines with something on the first and on the last of them, all are left. -/
theorem lines_unlines (whole : ∀ l ∈ ls, '\n' ∉ l) (start : ∀ l ∈ ls.head?, Filled l)
    (closed : Closed ls) : lines (unlines ls) = neat ls := by
  have shown {l : List Char} (filled : Filled l) : (trimEnd l).isEmpty = false := by
    simpa [Filled] using filled
  have ends : neat (ls ++ [[]]) = [] ++ neat ls ++ [[]] := neat_append closed [[]]
  rw [lines, split_unlines whole, ends, strip_append (by simp) (by simp)]
  refine strip_of_ends (fun line first => ?_) (fun line last => ?_)
  · rw [head?_neat start] at first
    obtain ⟨l, member, rfl⟩ := Option.map_eq_some_iff.mp first
    exact shown (start l member)
  · rw [getLast?_neat closed] at last
    obtain ⟨l, member, rfl⟩ := Option.map_eq_some_iff.mp last
    exact shown (closed l member)

/-- The layout of whole lines with something on the first and on the last of them. -/
theorem tidy_unlines (whole : ∀ l ∈ ls, '\n' ∉ l) (some : ls ≠ []) (start : ∀ l ∈ ls.head?, Filled l)
    (closed : Closed ls) : tidy (unlines ls) = unlines (neat ls) := by
  rw [tidy_eq, lines_unlines whole start closed, if_neg (neat_ne_nil some start)]

/-- Lines that others can be put behind: there are some, without line feeds in them, and there is
something on the first and on the last of them. -/
structure Block (ls : List (List Char)) : Prop where
  whole : ∀ l ∈ ls, '\n' ∉ l
  some : ls ≠ []
  start : ∀ l ∈ ls.head?, Filled l
  closed : Closed ls

/-- The layout of a block and of what is put behind it. -/
theorem Block.tidy_append (block : Block ls) (whole : ∀ l ∈ ms, '\n' ∉ l) (closed : Closed ms) :
    tidy (unlines (ls ++ ms)) = unlines (neat ls) ++ unlines (neat ms) := by
  obtain ⟨line, rest, rfl⟩ := List.exists_cons_of_ne_nil block.some
  rw [tidy_unlines (List.forall_mem_append.mpr ⟨block.whole, whole⟩) (by simp) block.start
    (block.closed.append closed), neat_append block.closed, unlines_append]

/-! ### A text cut behind a line -/

/-- A text cut behind the last of its lines that satisfy a test. -/
def cutBehind (test : List Char → Bool) (s : List Char) : List Char × List Char :=
  let before := dropEnd (fun line => !test line) (split '\n' s)
  (unlines before, join ['\n'] ((split '\n' s).drop before.length))

theorem join_append_nil (ls : List (List Char)) : join ['\n'] (ls ++ [[]]) = unlines ls := by
  induction ls with
  | nil => rfl
  | cons line ls ih =>
    cases ls with
    | nil => simp [join]
    | cons next ls =>
      rw [List.cons_append, List.cons_append, join_cons_cons, ← List.cons_append, ih]
      simp

theorem cutBehind_unlines {test : List Char → Bool} (whole : ∀ l ∈ ls ++ ms, '\n' ∉ l)
    (last : ∀ l ∈ ls.getLast?, test l = true) (none : ∀ l ∈ ms, test l = false)
    (empty : test [] = false) :
    cutBehind test (unlines (ls ++ ms)) = (unlines ls, unlines ms) := by
  have before : dropEnd (fun line => !test line) (ls ++ (ms ++ [[]])) = ls := by
    rw [dropEnd_append, dropEnd_of_last]
    · intro l ends
      simp [last l ends]
    · intro l member
      rcases List.mem_append.mp member with own | only
      · simp [none l own]
      · cases List.mem_singleton.mp only
        simp [empty]
  rw [cutBehind, split_unlines whole, List.append_assoc]
  rw [before, List.drop_left, join_append_nil]

end RpcBindings.Layout
