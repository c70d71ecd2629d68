import RpcBindings.Proofs.Text.Lowercase

/-! What characters become in uppercase. One that no entry of the tables leads to is there only if it
was there before; the line feed and the underscore are such. A single character that another one
becomes stays as it is. On ASCII both cases are those of core. -/
namespace RpcBindings.Text

/-! ### Characters that nothing becomes in uppercase -/

theorem ofNat_ne {code : Nat} {mark : Char} (visible : mark ≠ '\x00') (other : code ≠ mark.toNat) :
    Char.ofNat code ≠ mark := by
  intro same
  by_cases valid : code.isValidChar
  · exact other (by rw [← same, CodePoints.toNat_ofNat valid])
  · rw [Char.ofNat, dif_neg valid] at same
    exact visible same.symm

/-- Whether the tables lead to a character from no other one. -/
structure Unreached (mark : Char) : Prop where
  visible : mark ≠ '\x00'
  listed : ∀ entry ∈ upperExpansions, ∀ code ∈ entry.2, code ≠ mark.toNat
  shifted : ∀ run ∈ upperShifts,
    0 ≤ run.first + run.offset ∧ run.image.contains mark.toNat = false

theorem Unreached.ne_of_mem {mark c d : Char} (unreached : Unreached mark) (other : c ≠ mark)
    (member : d ∈ upperOf c) : d ≠ mark := by
  rcases mem_recase member with ⟨rfl, -⟩ | ⟨entry, listed, code, inside, rfl⟩ |
    ⟨run, listed, inside, rfl⟩
  · exact other
  · exact ofNat_ne unreached.visible (unreached.listed entry listed code inside)
  · obtain ⟨low, outside⟩ := unreached.shifted run listed
    refine ofNat_ne unreached.visible fun same => ?_
    have reached := ShiftRun.image_contains low inside
    rw [same, outside] at reached
    cases reached

theorem unreached_feed : Unreached '\n' := by
  constructor <;> decide +kernel

theorem unreached_bar : Unreached '_' := by
  constructor <;> decide +kernel

/-! ### One step is enough -/

theorem upperShifts_lead :
    ∀ run ∈ upperShifts, run.leadsOutside (mapped upperExpansions upperShifts) = true := by
  decide +kernel

/-- An uppercase form that is a single character is in uppercase. -/
theorem upperOf_single {c d : Char} (single : upperOf c = [d]) : upperOf d = [d] :=
  recase_single (by decide +kernel) upperShifts_lead (List.Subset.refl _) single

/-! ### ASCII -/

/-- What holds of the first 128 characters holds of those of ASCII. -/
theorem ascii_forall {P : Char → Prop} [DecidablePred P] (all : ∀ n < 128, P (Char.ofNat n))
    {c : Char} (ascii : c.toNat < 128) : P c := by
  have here := all c.toNat ascii
  rwa [Char.ofNat_toNat] at here

theorem CodeRun.contains_of_high {run : CodeRun} {code : Nat} (ascii : code < 128)
    (high : 128 ≤ run.first) : run.contains code = false := by
  refine Bool.eq_false_iff.mpr fun inside => ?_
  have low := (contains_iff.mp inside).1
  omega

/-- Of tables that say nothing of ASCII but in their first run, only that one counts. -/
theorem recase_ascii {expansions : List (Nat × List Nat)} {shifts : List ShiftRun} {run : ShiftRun}
    {c : Char} (ascii : c.toNat < 128) (first : shifts.head? = some run)
    (listed : ∀ entry ∈ expansions, 128 ≤ entry.1)
    (shifted : ∀ other ∈ shifts.tail, 128 ≤ other.first) :
    recase expansions shifts c =
      if run.domain.contains c.toNat then [Char.ofNat (c.toNat + run.offset).toNat] else [c] := by
  obtain ⟨rest, rfl⟩ := List.head?_eq_some_iff.mp first
  have unlisted : expansions.lookup c.toNat = none := by
    refine List.lookup_eq_none_iff.mpr fun entry member => bne_iff_ne.mpr ?_
    have high := listed entry member
    omega
  have unshifted : rest.find? (·.domain.contains c.toNat) = none := by
    refine List.find?_eq_none.mpr fun other member => ?_
    rw [ShiftRun.domain, CodeRun.contains_of_high ascii (shifted other member)]
    exact Bool.false_ne_true
  rw [recase, unlisted, List.find?_cons, unshifted]
  by_cases inside : run.domain.contains c.toNat = true <;> simp [inside]

theorem ascii_first :
    (∀ entry ∈ lowerExpansions, 128 ≤ entry.1) ∧ (∀ run ∈ lowerShifts.tail, 128 ≤ run.first) ∧
      (∀ entry ∈ upperExpansions, 128 ≤ entry.1) ∧ (∀ run ∈ upperShifts.tail, 128 ≤ run.first) ∧
      ∀ run ∈ uppercaseRuns.tail, 128 ≤ run.first := by
  decide +kernel

theorem isUpper_ascii {c : Char} (ascii : c.toNat < 128) :
    isUpper c = (⟨0x41, 0x5A, 1⟩ : CodeRun).contains c.toNat := by
  have first : uppercaseRuns.head? = some ⟨0x41, 0x5A, 1⟩ := rfl
  obtain ⟨rest, table⟩ := List.head?_eq_some_iff.mp first
  have later : rest.any (·.contains c.toNat) = false := by
    refine List.any_eq_false.mpr fun run member => ?_
    have high := ascii_first.2.2.2.2 run (by rw [table]; exact member)
    simp [CodeRun.contains_of_high ascii high]
  rw [isUpper, table, List.any_cons, later, Bool.or_false]

/-- On ASCII the cases are those of core. -/
theorem ascii_cases {c : Char} (ascii : c.toNat < 128) :
    lowerOf c = [c.toLower] ∧ upperOf c = [c.toUpper] ∧ isUpper c = c.isUpper := by
  have small : lowerShifts.head? = some ⟨0x41, 0x5A, 1, 32⟩ := rfl
  have large : upperShifts.head? = some ⟨0x61, 0x7A, 1, -32⟩ := rfl
  obtain ⟨lowerListed, lowerShifted, upperListed, upperShifted, -⟩ := ascii_first
  rw [lowerOf, upperOf, recase_ascii ascii small lowerListed lowerShifted,
    recase_ascii ascii large upperListed upperShifted, isUpper_ascii ascii]
  exact ascii_forall (P := fun c =>
    (if (ShiftRun.domain ⟨0x41, 0x5A, 1, 32⟩).contains c.toNat
      then [Char.ofNat (c.toNat + (32 : Int)).toNat] else [c]) = [c.toLower] ∧
    (if (ShiftRun.domain ⟨0x61, 0x7A, 1, -32⟩).contains c.toNat
      then [Char.ofNat (c.toNat + (-32 : Int)).toNat] else [c]) = [c.toUpper] ∧
    (⟨0x41, 0x5A, 1⟩ : CodeRun).contains c.toNat = c.isUpper) (by decide +kernel) ascii

end RpcBindings.Text
