import Mathlib.Data.List.DropRight
import RpcBindings.Layout
import RpcBindings.Proofs.Text.Blank

/-! Items at the ends of a list that are taken away as long as they satisfy a test: what is left of
the list, and where such items stand in what it is put together from. Trimming takes blanks away. -/
namespace RpcBindings.Layout

variable {α : Type} {p : α → Bool} {s t front back : List α} {x : α}

theorem dropEnd_eq_rdropWhile (p : α → Bool) (s : List α) : dropEnd p s = s.rdropWhile p := by
  induction s with
  | nil => rfl
  | cons x s ih =>
    rw [dropEnd, ih, List.rdropWhile, List.rdropWhile, List.reverse_cons, List.dropWhile_append]
    rcases List.eq_nil_or_concat' (s.reverse.dropWhile p) with none | ⟨rest, y, kept⟩
    · by_cases dropped : p x = true <;> simp [none, dropped]
    · simp [kept]

theorem dropEnd_append (dropped : ∀ x ∈ t, p x = true) : dropEnd p (s ++ t) = dropEnd p s := by
  have ends : ∀ x ∈ t.reverse, p x = true := by simpa using dropped
  rw [dropEnd_eq_rdropWhile, dropEnd_eq_rdropWhile, List.rdropWhile, List.reverse_append,
    List.dropWhile_append_of_pos ends]
  rfl

theorem dropEnd_append_cons (kept : p x = false) (front s : List α) :
    dropEnd p (front ++ x :: s) = front ++ x :: dropEnd p s := by
  induction front with
  | nil =>
    rw [List.nil_append, List.nil_append, dropEnd]
    cases dropEnd p s <;> simp [kept]
  | cons y front ih =>
    rw [List.cons_append, dropEnd, ih]
    cases front <;> rfl

theorem dropEnd_of_last (kept : ∀ x ∈ s.getLast?, p x = false) : dropEnd p s = s := by
  rcases List.eq_nil_or_concat' s with rfl | ⟨front, x, rfl⟩
  · rfl
  · exact dropEnd_append_cons (kept x (by simp)) front []

/-- A list without the items at either end that satisfy a test. -/
def strip (p : α → Bool) (s : List α) : List α := dropEnd p (s.dropWhile p)

theorem strip_between (p : α → Bool) (s : List α) :
    ∃ front back, s = front ++ strip p s ++ back ∧
      (∀ x ∈ front, p x = true) ∧ ∀ x ∈ back, p x = true := by
  refine ⟨s.takeWhile p, (s.dropWhile p).rtakeWhile p, ?_, List.all_eq_true.mp List.all_takeWhile,
    fun x member => List.mem_rtakeWhile_imp member⟩
  rw [strip, dropEnd_eq_rdropWhile, List.append_assoc, List.rdropWhile_append_rtakeWhile,
    List.takeWhile_append_dropWhile]

theorem strip_append (before : ∀ x ∈ front, p x = true) (behind : ∀ x ∈ back, p x = true) :
    strip p (front ++ s ++ back) = strip p s := by
  rw [List.append_assoc, strip, strip, List.dropWhile_append_of_pos before, List.dropWhile_append]
  split
  next empty => rw [List.isEmpty_iff.mp empty, List.dropWhile_eq_nil_iff.mpr behind]
  next => exact dropEnd_append behind

/-- Nothing is taken away behind an item that stays but at the end. -/
theorem strip_append_cons (kept : p x = false) (front s : List α) :
    strip p (front ++ x :: s) = front.dropWhile p ++ x :: dropEnd p s := by
  have start : (front ++ x :: s).dropWhile p = front.dropWhile p ++ x :: s := by
    rw [List.dropWhile_append]
    split
    next empty =>
      rw [List.isEmpty_iff.mp empty, List.dropWhile_cons_of_neg (by simp [kept]), List.nil_append]
    next => rfl
  rw [strip, start, dropEnd_append_cons kept]

theorem head_strip (p : α → Bool) (s : List α) : ∀ x ∈ (strip p s).head?, p x = false := by
  intro x first
  have start : strip p s <+: s.dropWhile p := by
    rw [strip, dropEnd_eq_rdropWhile]
    exact List.rdropWhile_prefix _ _
  obtain ⟨rest, whole⟩ := start
  have kept := List.head?_dropWhile_not p s
  rwa [← whole, List.head?_append, first, Option.some_or] at kept

theorem last_strip (p : α → Bool) (s : List α) : ∀ x ∈ (strip p s).getLast?, p x = false := by
  intro x last
  rw [strip, dropEnd_eq_rdropWhile] at last
  obtain ⟨before, whole⟩ := List.getLast?_eq_some_iff.mp last
  have some : (s.dropWhile p).rdropWhile p ≠ [] := by simp [whole]
  simpa [whole] using List.rdropWhile_last_not p (s.dropWhile p) some

theorem strip_of_ends (start : ∀ x ∈ s.head?, p x = false) (last : ∀ x ∈ s.getLast?, p x = false) :
    strip p s = s := by
  have kept : s.dropWhile p = s := by
    cases s with
    | nil => rfl
    | cons x s => exact List.dropWhile_cons_of_neg (by simp [start x rfl])
  rw [strip, kept, dropEnd_of_last last]

theorem strip_strip (p : α → Bool) (s : List α) : strip p (strip p s) = strip p s :=
  strip_of_ends (head_strip p s) (last_strip p s)

end RpcBindings.Layout

namespace RpcBindings.Text

/-! ### Blanks -/

theorem trimEnd_eq_dropEnd (s : List Char) : trimEnd s = Layout.dropEnd isBlank s := by
  induction s with
  | nil => rfl
  | cons c s ih =>
    rw [trimEnd, Layout.dropEnd, ih]
    cases Layout.dropEnd isBlank s <;> rfl

theorem trim_eq_strip (s : List Char) : trim s = Layout.strip isBlank s := trimEnd_eq_dropEnd _

theorem trimmed_trim (s : List Char) : Trimmed (trim s) := by
  rw [Trimmed, trim_eq_strip, trim_eq_strip, Layout.strip_strip]

theorem mem_of_mem_trim {c : Char} {s : List Char} (member : c ∈ trim s) : c ∈ s :=
  List.dropWhile_subset isBlank (mem_of_mem_trimEnd member)

theorem trim_eq_nil_iff {s : List Char} : trim s = [] ↔ ∀ c ∈ s, isBlank c = true := by
  constructor
  · intro none
    obtain ⟨front, back, whole, before, behind⟩ := Layout.strip_between isBlank s
    rw [← trim_eq_strip, none, List.append_nil] at whole
    rw [whole]
    exact List.forall_mem_append.mpr ⟨before, behind⟩
  · intro blank
    rw [trim, trimStart, List.dropWhile_eq_nil_iff.mpr blank, trimEnd]

end RpcBindings.Text
