import RpcBindings.Proofs.Entries
import RpcBindings.Text.Case
import RpcBindings.Text.CodePoints

/-! Tables that map characters to their other case, as runs of code points. Two runs are seen to have
nothing in common by their bounds and strides. A table that leads from no run to another one is used
up after one step: what it makes of a character as a single one is what it makes of that again. -/
namespace RpcBindings.Text

/-! ### Runs of code points -/

/-- Whether two runs are seen to have no code point in common. -/
def CodeRun.isApart (a b : CodeRun) : Bool :=
  a.last.blt b.first || b.last.blt a.first || (a.first == a.last && !b.contains a.first) ||
    (a.stride == b.stride && a.first % a.stride != b.first % a.stride)

theorem CodeRun.contains_iff {run : CodeRun} {code : Nat} :
    run.contains code = true ↔
      run.first ≤ code ∧ code ≤ run.last ∧ (code - run.first) % run.stride = 0 := by
  simp [contains, and_assoc]

/-- All code points of a run leave the same remainder. -/
theorem CodeRun.mod_stride {run : CodeRun} {code : Nat} (inside : run.contains code = true) :
    code % run.stride = run.first % run.stride := by
  obtain ⟨low, -, aligned⟩ := contains_iff.mp inside
  obtain ⟨steps, distance⟩ := Nat.dvd_of_mod_eq_zero aligned
  rw [show code = run.first + run.stride * steps by omega, Nat.add_mul_mod_self_left]

theorem CodeRun.outside_of_isApart {a b : CodeRun} {code : Nat} (apart : a.isApart b = true)
    (inside : a.contains code = true) : b.contains code = false := by
  obtain ⟨low, high, -⟩ := contains_iff.mp inside
  refine Bool.eq_false_iff.mpr fun caught => ?_
  obtain ⟨lowest, highest, -⟩ := contains_iff.mp caught
  simp only [isApart, Bool.or_eq_true, Bool.and_eq_true, Nat.blt_eq, beq_iff_eq, bne_iff_ne,
    Bool.not_eq_true'] at apart
  rcases apart with ((before | after) | ⟨single, missed⟩) | ⟨stride, residues⟩
  · omega
  · omega
  · rw [show a.first = code by omega, caught] at missed
    cases missed
  · exact residues (mod_stride inside ▸ stride ▸ mod_stride caught)

/-- What a run is mapped to. -/
def ShiftRun.image (run : ShiftRun) : CodeRun :=
  ⟨(run.first + run.offset).toNat, (run.last + run.offset).toNat, run.stride⟩

theorem ShiftRun.image_contains {run : ShiftRun} {code : Nat} (low : 0 ≤ run.first + run.offset)
    (inside : run.domain.contains code = true) :
    run.image.contains (code + run.offset).toNat = true := by
  obtain ⟨first, last, aligned⟩ := CodeRun.contains_iff.mp inside
  simp only [domain] at first last aligned
  refine CodeRun.contains_iff.mpr ⟨?_, ?_, ?_⟩
  · simp only [image]; omega
  · simp only [image]; omega
  · simp only [image]
    rwa [show (code + run.offset).toNat - (run.first + run.offset).toNat = code - run.first by omega]

theorem contains_single (code : Nat) : (⟨code, code, 1⟩ : CodeRun).contains code = true :=
  CodeRun.contains_iff.mpr (by simp)

/-- What a character becomes is listed, or is shifted, or is the character itself, which then stays. -/
theorem mem_recase {expansions : List (Nat × List Nat)} {shifts : List ShiftRun} {c d : Char}
    (member : d ∈ recase expansions shifts c) :
    (d = c ∧ recase expansions shifts c = [c]) ∨
      (∃ entry ∈ expansions, ∃ code ∈ entry.2, d = Char.ofNat code) ∨
      ∃ run ∈ shifts, run.domain.contains c.toNat = true ∧
        d = Char.ofNat (c.toNat + run.offset).toNat := by
  cases expansion : expansions.lookup c.toNat with
  | some codes =>
    simp only [recase, expansion] at member
    obtain ⟨code, listed, rfl⟩ := List.mem_map.mp member
    exact .inr (.inl ⟨(c.toNat, codes), mem_of_lookup expansion, code, listed, rfl⟩)
  | none =>
    cases shift : shifts.find? (·.domain.contains c.toNat) with
    | some run =>
      simp only [recase, expansion, shift, List.mem_singleton] at member
      have inside := List.find?_some shift
      exact .inr (.inr ⟨run, List.mem_of_find?_eq_some shift, inside, member⟩)
    | none =>
      have fixed : recase expansions shifts c = [c] := by simp only [recase, expansion, shift]
      rw [fixed, List.mem_singleton] at member
      exact .inl ⟨member, fixed⟩

/-! ### One step is enough -/

/-- The code points that a table maps. -/
def mapped (expansions : List (Nat × List Nat)) (shifts : List ShiftRun) : List CodeRun :=
  (expansions.map fun entry => ⟨entry.1, entry.1, 1⟩) ++ shifts.map ShiftRun.domain

/-- Whether a run leads to characters, and into none of the runs. -/
def ShiftRun.leadsOutside (run : ShiftRun) (others : List CodeRun) : Bool :=
  decide (0 ≤ run.first + run.offset) &&
    (run.image.last.blt 0xD800 || (Nat.blt 0xDFFF run.image.first && run.image.last.blt 0x110000)) &&
    others.all run.image.isApart

theorem ShiftRun.outside_of_leadsOutside {run : ShiftRun} {others : List CodeRun} {code : Nat}
    (leads : run.leadsOutside others = true) (inside : run.domain.contains code = true) :
    run.image.contains (code + run.offset).toNat = true ∧ (code + run.offset).toNat.isValidChar ∧
      ∀ other ∈ others, other.contains (code + run.offset).toNat = false := by
  simp only [leadsOutside, Bool.and_eq_true, Bool.or_eq_true, decide_eq_true_eq, Nat.blt_eq,
    List.all_eq_true] at leads
  obtain ⟨⟨low, range⟩, apart⟩ := leads
  have reached := image_contains low inside
  obtain ⟨first, last, -⟩ := CodeRun.contains_iff.mp reached
  refine ⟨reached, ?_, fun other listed => CodeRun.outside_of_isApart (apart other listed) reached⟩
  rcases range with below | ⟨above, bound⟩
  · exact .inl (by omega)
  · exact .inr ⟨by omega, by omega⟩

/-- A character that a table does not map stays as it is. -/
theorem recase_of_outside {expansions : List (Nat × List Nat)} {shifts : List ShiftRun} {code : Nat}
    (valid : code.isValidChar)
    (outside : ∀ run ∈ mapped expansions shifts, run.contains code = false) :
    recase expansions shifts (Char.ofNat code) = [Char.ofNat code] := by
  have own := CodePoints.toNat_ofNat valid
  have expansion : expansions.lookup code = none := by
    refine List.lookup_eq_none_iff.mpr fun entry member => bne_iff_ne.mpr fun same => ?_
    have missed := outside _ (List.mem_append_left _ (List.mem_map_of_mem member))
    rw [← same, contains_single] at missed
    cases missed
  have shift : shifts.find? (·.domain.contains code) = none :=
    List.find?_eq_none.mpr fun run member => by
      simp [outside _ (List.mem_append_right _ (List.mem_map_of_mem member))]
  simp only [recase, own, expansion, shift]

/-- What a character becomes as a single one stays as it is. -/
theorem recase_single {expansions : List (Nat × List Nat)} {shifts : List ShiftRun}
    {others : List CodeRun} {c d : Char} (several : ∀ entry ∈ expansions, entry.2.length ≠ 1)
    (leads : ∀ run ∈ shifts, run.leadsOutside others = true)
    (all : mapped expansions shifts ⊆ others)
    (single : recase expansions shifts c = [d]) : recase expansions shifts d = [d] := by
  cases expansion : expansions.lookup c.toNat with
  | some codes =>
    simp only [recase, expansion] at single
    have one : codes.length = 1 := by simpa using congrArg List.length single
    exact absurd one (several _ (mem_of_lookup expansion))
  | none =>
    cases shift : shifts.find? (·.domain.contains c.toNat) with
    | some run =>
      simp only [recase, expansion, shift, List.cons.injEq, and_true] at single
      have inside := List.find?_some shift
      obtain ⟨-, valid, outside⟩ := ShiftRun.outside_of_leadsOutside
        (leads run (List.mem_of_find?_eq_some shift)) inside
      rw [← single]
      exact recase_of_outside valid fun other listed => outside other (all listed)
    | none =>
      have fixed : recase expansions shifts c = [c] := by simp only [recase, expansion, shift]
      rw [fixed] at single
      cases single
      exact fixed

end RpcBindings.Text
