import RpcBindings.Proofs.Text.Blocks

/-! What the layout makes of a text. It keeps what there is on the lines, in its order, and cuts every
run of blank lines to two, or to none at either end. The texts that come out are just those that it
leaves as they are. -/
namespace RpcBindings.Layout

open Text

variable {ls gap : List (List Char)} {line : List Char}

/-! ### Runs of blank lines -/

/-- Of some empty lines those are left that are still among the first two. -/
theorem capBlank_replicate (run n : Nat) (ls : List (List Char)) :
    capBlank run (List.replicate n [] ++ ls) =
      List.replicate (min n (2 - run)) [] ++ capBlank (run + n) ls := by
  induction n generalizing run with
  | zero => simp
  | succ n ih =>
    rw [List.replicate_succ, List.cons_append, capBlank_cons_nil, ih]
    have counted : run + 1 + n = run + (n + 1) := by omega
    split
    next few =>
      have kept : min (n + 1) (2 - run) = min n (2 - (run + 1)) + 1 := by omega
      rw [counted, kept, List.replicate_succ, List.cons_append]
    next many =>
      have kept : min (n + 1) (2 - run) = min n (2 - (run + 1)) := by omega
      rw [counted, kept]

theorem map_trimEnd_blank (blank : ∀ l ∈ gap, ¬ Filled l) :
    gap.map trimEnd = List.replicate gap.length [] := by
  have empty : ∀ l ∈ gap.map trimEnd, l = [] := by
    intro l member
    obtain ⟨line, listed, rfl⟩ := List.mem_map.mp member
    exact not_not.mp (blank line listed)
  simpa using List.eq_replicate_of_mem empty

/-- Blank lines in front of one with something on it are cut to two. -/
theorem neat_gap (blank : ∀ l ∈ gap, ¬ Filled l) (filled : Filled line)
    (after : List (List Char)) :
    neat (gap ++ line :: after) =
      List.replicate (min gap.length 2) [] ++ trimEnd line :: neat after := by
  rw [neat, List.map_append, List.map_cons, map_trimEnd_blank blank, capBlank_replicate,
    capBlank_cons_of_ne filled]
  rfl

/-- Whether there are no three empty lines in a row. -/
def Spaced (ls : List (List Char)) : Prop := ¬ List.replicate 3 [] <:+: ls

theorem infix_append_cons {α : Type} {t front back : List α} {x : α} (apart : x ∉ t)
    (inside : t <:+: front ++ x :: back) : t <:+: front ∨ t <:+: back := by
  rcases List.infix_append_iff.mp inside with before | behind | ⟨first, second, rfl, ends, starts⟩
  · exact .inl before
  · rcases List.infix_cons_iff.mp behind with starts | later
    · cases t with
      | nil => exact .inr List.nil_infix
      | cons y t =>
        have same := (List.cons_prefix_cons.mp starts).1
        exact absurd (same ▸ List.mem_cons_self) apart
    · exact .inr later
  · cases second with
    | nil => exact .inl (by simpa using ends.isInfix)
    | cons y second =>
      have same := (List.cons_prefix_cons.mp starts).1
      exact absurd (same ▸ List.mem_append_right first List.mem_cons_self) apart

/-- The empty lines that were counted before, at most two, make no row of three with those that are
left: by induction on the lines, for every count. -/
theorem spaced_capBlank (run : Nat) (ls : List (List Char)) :
    Spaced (List.replicate (min run 2) [] ++ capBlank run ls) := by
  induction ls generalizing run with
  | nil =>
    intro inside
    have bound := inside.length_le
    simp only [capBlank, List.append_nil, List.length_replicate] at bound
    omega
  | cons line ls ih =>
    by_cases empty : line = []
    · subst empty
      have next := ih (run + 1)
      rw [capBlank_cons_nil]
      split
      next few =>
        have counted : min (run + 1) 2 = min run 2 + 1 := by omega
        rwa [counted, List.replicate_succ', List.append_assoc, List.singleton_append] at next
      next many =>
        have counted : min (run + 1) 2 = min run 2 := by omega
        rwa [counted] at next
    · rw [capBlank_cons_of_ne empty]
      intro inside
      rcases infix_append_cons (by simpa using empty) inside with before | behind
      · have bound := before.length_le
        simp only [List.length_replicate] at bound
        omega
      · exact ih 0 behind

theorem spaced_neat (ls : List (List Char)) : Spaced (neat ls) := spaced_capBlank 0 (ls.map trimEnd)

/-- Lines without three empty ones in a row stay as they are. -/
theorem capBlank_of_spaced {run : Nat} (few : run ≤ 2)
    (spaced : Spaced (List.replicate run [] ++ ls)) : capBlank run ls = ls := by
  induction ls generalizing run with
  | nil => rfl
  | cons line ls ih =>
    by_cases empty : line = []
    · subst empty
      have shifted : List.replicate run [] ++ [] :: ls = List.replicate (run + 1) [] ++ ls := by
        rw [List.replicate_succ', List.append_assoc, List.singleton_append]
      rw [shifted] at spaced
      have fewer : run < 2 := by
        by_contra full
        have three : run + 1 = 3 := by omega
        exact spaced (three ▸ (List.prefix_append _ _).isInfix)
      rw [capBlank_cons_nil, if_pos fewer, ih (by omega) spaced]
    · rw [capBlank_cons_of_ne empty, ih (by omega)]
      intro inside
      have later : ls <:+: List.replicate run [] ++ line :: ls :=
        ((List.suffix_cons line ls).trans (List.suffix_append _ _)).isInfix
      exact spaced (inside.trans later)

theorem neat_of_spaced (trimmed : ∀ l ∈ ls, trimEnd l = l) (spaced : Spaced ls) : neat ls = ls := by
  have same : ls.map trimEnd = ls := (List.map_congr_left trimmed).trans (List.map_id ls)
  rw [neat, same]
  exact capBlank_of_spaced (by decide) spaced

/-! ### Lines in their layout -/

/-- Lines as the layout leaves them. -/
structure Laid (ls : List (List Char)) : Prop where
  whole : ∀ l ∈ ls, '\n' ∉ l
  trimmed : ∀ l ∈ ls, trimEnd l = l
  spaced : Spaced ls
  start : ls.head? ≠ some []
  closing : ls.getLast? ≠ some []

theorem laid_lines (s : List Char) : Laid (lines s) where
  whole := not_mem_of_mem_lines s
  trimmed l member := by
    obtain ⟨line, -, rfl⟩ := mem_of_mem_neat ((infix_lines s).subset member)
    exact trimEnd_trimEnd line
  spaced crowded := spaced_neat _ (crowded.trans (infix_lines s))
  start := head?_lines s
  closing := getLast?_lines s

theorem Laid.filled_head (laid : Laid ls) : ∀ l ∈ ls.head?, Filled l := by
  intro l first
  rw [Filled, laid.trimmed l (List.mem_of_mem_head? first)]
  exact fun empty => laid.start (empty ▸ first)

theorem Laid.filled_last (laid : Laid ls) : ∀ l ∈ ls.getLast?, Filled l := by
  intro l last
  rw [Filled, laid.trimmed l (List.mem_of_getLast? last)]
  exact fun empty => laid.closing (empty ▸ last)

theorem Laid.tidy_unlines (laid : Laid ls) (some : ls ≠ []) : tidy (unlines ls) = unlines ls := by
  rw [Layout.tidy_unlines laid.whole some laid.filled_head laid.filled_last,
    neat_of_spaced laid.trimmed laid.spaced]

/-- The line behind the last line feed makes no row of three. -/
theorem Laid.spaced_append (laid : Laid ls) : Spaced (ls ++ [[]]) := by
  intro inside
  rcases List.eq_nil_or_concat' ls with rfl | ⟨front, line, rfl⟩
  · exact absurd inside.length_le (by decide)
  · have filled : line ≠ [] := fun empty => laid.closing (by simp [empty])
    rw [List.append_assoc, List.singleton_append] at inside
    rcases infix_append_cons (by simpa using filled) inside with before | behind
    · exact laid.spaced (before.trans (List.prefix_append _ _).isInfix)
    · exact absurd behind.length_le (by decide)

/-! ### Texts in their layout -/

/-- Whether a text is in its layout. -/
structure InLayout (s : List Char) : Prop where
  ends : ['\n'] <:+ s
  trimmed : ∀ line ∈ split '\n' s, trimEnd line = line
  /-- Four line feeds in a row are three blank lines. -/
  spaced : ¬ List.replicate 4 '\n' <:+: s
  /-- There are no blank lines at either end of a text, unless it is one. -/
  edges : s = ['\n'] ∨ ¬ ['\n'] <+: s ∧ ¬ ['\n', '\n'] <:+ s

theorem feeds_suffix_iff (whole : ∀ l ∈ ls, '\n' ∉ l) :
    ['\n', '\n'] <:+ unlines ls ↔ ∃ front line, ls = front ++ [line, []] := by
  constructor
  · rintro ⟨before, same⟩
    have cut : split '\n' before ++ [[]] ++ [[]] = ls ++ [[]] := by
      rw [← split_unlines whole, ← same, split_append_cons, split_cons_sep, List.append_assoc]
      rfl
    rcases List.eq_nil_or_concat' (split '\n' before) with none | ⟨front, line, parts⟩
    · exact absurd none (split_ne_nil _ _)
    · exact ⟨front, line, by rw [← List.append_cancel_right cut, parts]; simp⟩
  · rintro ⟨front, line, rfl⟩
    exact ⟨unlines front ++ line, by simp⟩

theorem feeds_infix_iff (whole : ∀ l ∈ ls, '\n' ∉ l) (start : ls.head? ≠ some []) :
    List.replicate 4 '\n' <:+: unlines ls ↔ List.replicate 3 [] <:+: ls := by
  constructor
  · rintro ⟨before, behind, same⟩
    have cut : split '\n' before ++ List.replicate 3 [] ++ split '\n' behind = ls ++ [[]] := by
      rw [← split_unlines whole, ← same, List.append_assoc, List.append_assoc]
      simp only [List.replicate, List.cons_append, List.nil_append, split_append_cons,
        split_cons_sep]
    rcases List.eq_nil_or_concat' (split '\n' behind) with none | ⟨more, last, parts⟩
    · exact absurd none (split_ne_nil _ _)
    · rw [parts, ← List.append_assoc] at cut
      exact ⟨split '\n' before, more, (List.append_inj' cut rfl).1⟩
  · rintro ⟨front, back, rfl⟩
    rcases List.eq_nil_or_concat' front with rfl | ⟨front, line, rfl⟩
    · exact absurd rfl start
    · exact ⟨unlines front ++ line, unlines back, by simp [List.replicate]⟩

/-- The texts in their layout are the single line feed and those of lines in their layout. -/
theorem inLayout_unlines_iff (whole : ∀ l ∈ ls, '\n' ∉ l) (some : ls ≠ []) :
    InLayout (unlines ls) ↔ ls = [[]] ∨ Laid ls := by
  have trimmed : (∀ line ∈ split '\n' (unlines ls), trimEnd line = line) ↔
      ∀ l ∈ ls, trimEnd l = l := by
    rw [split_unlines whole, List.forall_mem_append]
    simp [trimEnd]
  constructor
  · intro layout
    rcases layout.edges with single | ⟨start, closing⟩
    · exact .inl (unlines_inj whole (by simp) single)
    · rw [feed_prefix_iff whole] at start
      refine .inr ⟨whole, trimmed.mp layout.trimmed, ?_, start, ?_⟩
      · exact fun crowded => layout.spaced ((feeds_infix_iff whole start).mpr crowded)
      · intro last
        obtain ⟨front, rfl⟩ := List.getLast?_eq_some_iff.mp last
        rcases List.eq_nil_or_concat' front with rfl | ⟨front, line, rfl⟩
        · exact start rfl
        · exact closing ((feeds_suffix_iff whole).mpr ⟨front, line, by simp⟩)
  · rintro (rfl | laid)
    · exact ⟨List.suffix_refl _, by decide, by decide, .inl rfl⟩
    · obtain ⟨front, line, rfl⟩ := (List.eq_nil_or_concat' ls).resolve_left some
      refine ⟨⟨unlines front ++ line, by simp⟩, trimmed.mpr laid.trimmed, ?_, .inr ⟨?_, ?_⟩⟩
      · exact fun crowded => laid.spaced ((feeds_infix_iff whole laid.start).mp crowded)
      · exact fun first => laid.start ((feed_prefix_iff whole).mp first)
      · intro last
        obtain ⟨before, l, same⟩ := (feeds_suffix_iff whole).mp last
        exact laid.closing (by simp [same])

theorem InLayout.exists_lines {s : List Char} (layout : InLayout s) :
    ∃ ls, ls ≠ [] ∧ (∀ l ∈ ls, '\n' ∉ l) ∧ unlines ls = s := by
  obtain ⟨front, rfl⟩ := layout.ends
  refine ⟨split '\n' front, split_ne_nil _ _, fun _ listed => not_mem_of_mem_split listed, ?_⟩
  rw [unlines, ← join_append_sep (split_ne_nil _ _), join_split]

theorem inLayout_feed : InLayout ['\n'] where
  ends := List.suffix_refl _
  trimmed := by decide
  spaced := by decide
  edges := .inl rfl

theorem inLayout_tidy (s : List Char) : InLayout (tidy s) := by
  have laid := laid_lines s
  rw [tidy_eq]
  split
  next => exact inLayout_feed
  next some => exact (inLayout_unlines_iff laid.whole some).mpr (.inr laid)

theorem spaced_split_tidy (s : List Char) : Spaced (split '\n' (tidy s)) := by
  by_cases none : lines s = []
  · rw [tidy_eq, if_pos none, Spaced]
    decide
  · rw [split_tidy none]
    exact (laid_lines s).spaced_append

theorem InLayout.tidy_eq_self {s : List Char} (layout : InLayout s) : tidy s = s := by
  obtain ⟨ls, some, whole, rfl⟩ := layout.exists_lines
  rcases (inLayout_unlines_iff whole some).mp layout with rfl | laid
  · rfl
  · exact laid.tidy_unlines some

/-- What the layout makes of a text is in its layout, without three blank lines in a row, and stays as
it is; so do no other texts. -/
theorem tidy_inLayout (s : List Char) :
    InLayout (tidy s) ∧ Spaced (split '\n' (tidy s)) ∧ (tidy s = s ↔ InLayout s) ∧
      tidy (tidy s) = tidy s :=
  ⟨inLayout_tidy s, spaced_split_tidy s, ⟨fun same => same ▸ inLayout_tidy s, InLayout.tidy_eq_self⟩,
    (inLayout_tidy s).tidy_eq_self⟩

/-! ### What is on the lines -/

/-- The lines with something on them, read off one by one. -/
theorem filter_filled (ls : List (List Char)) : ls.filter (Filled ·) =
    ls.flatMap fun line => (Option.guard (Filled ·) line).toList := by
  rw [← List.filterMap_eq_flatMap_toList, List.filterMap_eq_filter]

/-- Only blank lines are left out. -/
theorem filter_neat (ls : List (List Char)) :
    (neat ls).filter (Filled ·) = (ls.filter (Filled ·)).map trimEnd := by
  rw [filter_filled, neat, flatMap_capBlank rfl, ← filter_filled, List.filter_map]
  refine congrArg _ (List.filter_congr fun line _ => ?_)
  exact decide_eq_decide.mpr filled_trimEnd

theorem filter_lines (s : List Char) :
    (lines s).filter (Filled ·) = ((split '\n' s).filter (Filled ·)).map trimEnd := by
  rw [filter_filled, flatMap_lines rfl, ← filter_filled, filter_neat]

theorem lines_ne_nil {s : List Char} (some : ∃ l ∈ split '\n' s, Filled l) : lines s ≠ [] := by
  intro none
  obtain ⟨l, listed, filled⟩ := some
  have nothing := filter_lines s
  rw [none, List.filter_nil, eq_comm, List.map_eq_nil_iff, List.filter_eq_nil_iff] at nothing
  exact nothing l listed (decide_eq_true filled)

/-- A line with something on it stays the last of those up to it. -/
theorem neat_concat (filled : Filled line) (front : List (List Char)) :
    ∃ first, neat (front ++ [line]) = first ++ [trimEnd line] ∧
      first.filter (Filled ·) = (front.filter (Filled ·)).map trimEnd := by
  have last : (neat (front ++ [line])).getLast? = some (trimEnd line) := by
    rw [getLast?_neat (by simpa [Closed] using filled)]
    simp
  obtain ⟨first, shape⟩ := List.getLast?_eq_some_iff.mp last
  have same := filter_neat (front ++ [line])
  have here : [trimEnd line].filter (Filled ·) = ([line].filter (Filled ·)).map trimEnd := by
    simp [filled, filled_trimEnd]
  rw [shape, List.filter_append, List.filter_append, List.map_append, here] at same
  exact ⟨first, shape, List.append_cancel_right same⟩

/-- Two lines with something on them that follow each other still do, with the same blank lines between
them, or two of them. -/
theorem lines_gap {s : List Char} {front back : List (List Char)} {next : List Char}
    (cut : split '\n' s = front ++ line :: (gap ++ next :: back)) (filled : Filled line)
    (filledNext : Filled next) (blank : ∀ l ∈ gap, ¬ Filled l) :
    ∃ first rest,
      lines s = first ++ trimEnd line ::
        (List.replicate (min gap.length 2) [] ++ trimEnd next :: rest) ∧
      first.filter (Filled ·) = (front.filter (Filled ·)).map trimEnd := by
  obtain ⟨first, shape, same⟩ := neat_concat filled front
  have whole : neat (split '\n' s) = first ++ trimEnd line ::
      (List.replicate (min gap.length 2) [] ++ trimEnd next :: neat back) := by
    rw [cut, ← List.singleton_append, ← List.append_assoc,
      neat_append (by simpa [Closed] using filled), shape, neat_gap blank filledNext]
    simp
  have shown {l : List Char} (filled : Filled l) : (trimEnd l).isEmpty = false := by
    simpa [Filled] using filled
  refine ⟨first.dropWhile List.isEmpty, dropEnd List.isEmpty (neat back), ?_, ?_⟩
  · rw [lines, whole, strip_append_cons (shown filled), dropEnd_append_cons (shown filledNext)]
  · -- The lines that are stripped off in front are empty.
    have parts := congrArg (List.filter (Filled ·))
      (List.takeWhile_append_dropWhile (p := List.isEmpty) (l := first))
    rw [List.filter_append, filter_filled (first.takeWhile _),
      flatMap_empty rfl (List.all_eq_true.mp List.all_takeWhile), List.nil_append] at parts
    exact parts.trans same

/-- Whether some lines are what the layout makes of others. -/
structure Relaid (before after : List (List Char)) : Prop where
  /-- The lines with something on them are the same but for the blanks at their ends. -/
  filled : after.filter (Filled ·) = (before.filter (Filled ·)).map trimEnd
  /-- Two of them that follow each other have the same blank lines between them, or two of them. -/
  between : ∀ front line gap next back, before = front ++ line :: (gap ++ next :: back) →
    Filled line → Filled next → (∀ l ∈ gap, ¬ Filled l) →
      ∃ first rest,
        after = first ++ trimEnd line ::
          (List.replicate (min gap.length 2) [] ++ trimEnd next :: rest) ∧
        first.filter (Filled ·) = (front.filter (Filled ·)).map trimEnd
  /-- No blank line comes before the first one. -/
  first : (∃ l ∈ before, Filled l) → ∀ l ∈ after.head?, Filled l
  /-- Behind the last one is nothing but the end of its line. -/
  last : (∃ l ∈ before, Filled l) → ∃ front line, after = front ++ [line, []] ∧ Filled line

theorem filter_tidy (s : List Char) :
    (split '\n' (tidy s)).filter (Filled ·) = ((split '\n' s).filter (Filled ·)).map trimEnd := by
  rw [← filter_lines]
  by_cases none : lines s = []
  · rw [tidy_eq, if_pos none, none]
    rfl
  · have last : ([[]] : List (List Char)).filter (Filled ·) = [] := rfl
    rw [split_tidy none, List.filter_append, last, List.append_nil]

/-- The layout keeps the lines with something on them, in their order, and does nothing to the blank
lines between two of them but cut them to two. -/
theorem tidy_relaid (s : List Char) : Relaid (split '\n' s) (split '\n' (tidy s)) where
  filled := filter_tidy s
  between := by
    intro front line gap next back cut filled filledNext blank
    obtain ⟨first, rest, shape, same⟩ := lines_gap cut filled filledNext blank
    refine ⟨first, rest ++ [[]], ?_, same⟩
    rw [split_tidy (lines_ne_nil ⟨line, by simp [cut], filled⟩), shape]
    simp
  first := by
    intro some l first
    rw [split_tidy (lines_ne_nil some), List.head?_append_of_ne_nil _ (lines_ne_nil some)] at first
    exact (laid_lines s).filled_head l first
  last := by
    intro some
    obtain ⟨front, line, shape⟩ :=
      (List.eq_nil_or_concat' (lines s)).resolve_left (lines_ne_nil some)
    refine ⟨front, line, ?_, (laid_lines s).filled_last line (by simp [shape])⟩
    rw [split_tidy (lines_ne_nil some), shape, List.append_assoc]
    rfl

example : tidy "\n\na \n\t\n\n\n\n  b".toList = "a\n\n\n  b\n".toList := by decide +kernel

end RpcBindings.Layout
