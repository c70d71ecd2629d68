import RpcBindings.Proofs.Text.Recase
import RpcBindings.Text.Blank

/-! Lowercase is reached in one step: what a character becomes has no other lowercase form, so a
text that is in lowercase stays as it is. Over the tables this is said of runs of code points: none
that a run is mapped to meets one that is mapped in turn, and none of blanks meets one either, so that
what separates words does so in lowercase. -/
namespace RpcBindings.Text

/-! ### Characters that stay as they are -/

/-- The code points with a lowercase form of their own, and that of the capital sigma. -/
def recased : List CodeRun :=
  ⟨'Σ'.toNat, 'Σ'.toNat, 1⟩ ::
    (lowerExpansions.map fun entry => ⟨entry.1, entry.1, 1⟩) ++ lowerShifts.map ShiftRun.domain

/-- A character that is in lowercase and is no sigma whose form depends on what is around it. -/
def Settled (c : Char) : Prop := c ≠ 'Σ' ∧ lowerOf c = [c]

theorem mapped_subset_recased : mapped lowerExpansions lowerShifts ⊆ recased :=
  List.subset_cons_self _ _

theorem settled_ofNat {code : Nat} (valid : code.isValidChar)
    (outside : ∀ run ∈ recased, run.contains code = false) : Settled (Char.ofNat code) := by
  have other : code ≠ 'Σ'.toNat := fun same => by
    subst same
    simpa [contains_single] using outside _ List.mem_cons_self
  refine ⟨fun sigma => other ?_, recase_of_outside valid fun run member => ?_⟩
  · rw [← CodePoints.toNat_ofNat valid, sigma]
  · exact outside run (mapped_subset_recased member)

/-- A character of a run that meets none of those with a lowercase form. -/
theorem settled_of_apart {run : CodeRun} {c : Char} (apart : recased.all run.isApart = true)
    (inside : run.contains c.toNat = true) : Settled c := by
  have outside : ∀ other ∈ recased, other.contains c.toNat = false := fun other member =>
    CodeRun.outside_of_isApart (List.all_eq_true.mp apart other member) inside
  simpa using settled_ofNat c.valid outside

/-- The single characters that stand for several, and the two forms of the sigma, stay. -/
theorem listed_settled :
    ∀ code ∈ [0x3C2, 0x3C3] ++ lowerExpansions.flatMap (·.2),
      code.isValidChar ∧ ∀ run ∈ recased, run.contains code = false := by decide +kernel

/-- No run leads to one that is mapped, and none leaves the range of characters. -/
theorem lowerShifts_lead : ∀ run ∈ lowerShifts, run.leadsOutside recased = true := by
  decide +kernel

theorem settled_of_shift {run : ShiftRun} {code : Nat} (member : run ∈ lowerShifts)
    (inside : run.domain.contains code = true) : Settled (Char.ofNat (code + run.offset).toNat) := by
  obtain ⟨-, valid, outside⟩ := ShiftRun.outside_of_leadsOutside (lowerShifts_lead run member) inside
  exact settled_ofNat valid outside

theorem lowerOf_settled {c d : Char} (other : c ≠ 'Σ') (member : d ∈ lowerOf c) : Settled d := by
  rcases mem_recase member with ⟨rfl, fixed⟩ | ⟨entry, listed, code, inside, rfl⟩ |
    ⟨run, listed, inside, rfl⟩
  · exact ⟨other, fixed⟩
  · have shown : code ∈ lowerExpansions.flatMap (·.2) := List.mem_flatMap.mpr ⟨_, listed, inside⟩
    obtain ⟨valid, outside⟩ := listed_settled code (List.mem_append_right _ shown)
    exact settled_ofNat valid outside
  · exact settled_of_shift listed inside

/-- A lowercase form that is a single character is in lowercase. -/
theorem lowerOf_single {c d : Char} (single : lowerOf c = [d]) : lowerOf d = [d] :=
  recase_single (by decide) lowerShifts_lead mapped_subset_recased single

/-- What characters are mapped to lies from the small letters on. -/
theorem images_high :
    (lowerExpansions.all fun entry => entry.2.all fun code => Nat.ble 'a'.toNat code) = true ∧
      (lowerShifts.all fun run => Nat.ble 'a'.toNat run.image.first) = true := by decide +kernel

theorem mem_lowerOf {c d : Char} (member : d ∈ lowerOf c) : d = c ∨ 'a'.toNat ≤ d.toNat := by
  rcases mem_recase member with ⟨same, -⟩ | ⟨entry, listed, code, inside, rfl⟩ |
    ⟨run, listed, inside, rfl⟩
  · exact .inl same
  · have shown : code ∈ lowerExpansions.flatMap (·.2) := List.mem_flatMap.mpr ⟨_, listed, inside⟩
    have high := List.all_eq_true.mp (List.all_eq_true.mp images_high.1 _ listed) code inside
    rw [CodePoints.toNat_ofNat (listed_settled code (List.mem_append_right _ shown)).1]
    exact .inr (Nat.le_of_ble_eq_true high)
  · obtain ⟨reached, valid, -⟩ :=
      ShiftRun.outside_of_leadsOutside (lowerShifts_lead run listed) inside
    have high := Nat.le_of_ble_eq_true (List.all_eq_true.mp images_high.2 run listed)
    rw [CodePoints.toNat_ofNat valid]
    exact .inr (Nat.le_trans high (CodeRun.contains_iff.mp reached).1)

/-! ### Blanks -/

def blankRuns : List CodeRun :=
  [⟨0x9, 0xD, 1⟩, ⟨0x1C, 0x20, 1⟩, ⟨0x85, 0x85, 1⟩, ⟨0xA0, 0xA0, 1⟩, ⟨0x1680, 0x1680, 1⟩,
    ⟨0x2000, 0x200A, 1⟩, ⟨0x2028, 0x2029, 1⟩, ⟨0x202F, 0x202F, 1⟩, ⟨0x205F, 0x205F, 1⟩,
    ⟨0x3000, 0x3000, 1⟩]

theorem mem_blankRuns {c : Char} (blank : isBlank c = true) :
    ∃ run ∈ blankRuns, run.contains c.toNat = true := by
  simp only [isBlank, Bool.or_eq_true, Bool.and_eq_true, decide_eq_true_eq, beq_iff_eq] at blank
  simp only [blankRuns, List.exists_mem_cons_iff, CodeRun.contains_iff, Nat.mod_one,
    List.not_mem_nil, false_and, exists_false, or_false, and_true]
  omega

theorem blankRuns_apart : (blankRuns.all fun run => recased.all run.isApart) = true := by
  decide +kernel

theorem settled_of_isBlank {c : Char} (blank : isBlank c = true) : Settled c := by
  obtain ⟨run, member, inside⟩ := mem_blankRuns blank
  exact settled_of_apart (List.all_eq_true.mp blankRuns_apart run member) inside

/-! ### Texts -/

theorem lowerAfter_settled (before s : List Char) : ∀ d ∈ lowerAfter before s, Settled d := by
  induction s generalizing before with
  | nil => nofun
  | cons c rest ih =>
    intro d member
    rcases List.mem_append.mp member with here | later
    · by_cases sigma : c = 'Σ'
      · have small : d = Char.ofNat 0x3C2 ∨ d = Char.ofNat 0x3C3 := by
          rw [if_pos sigma, List.mem_singleton] at here
          subst here
          split
          · exact .inl rfl
          · exact .inr rfl
        rcases small with rfl | rfl
        · exact settled_ofNat (listed_settled _ (by simp)).1 (listed_settled _ (by simp)).2
        · exact settled_ofNat (listed_settled _ (by simp)).1 (listed_settled _ (by simp)).2
      · rw [if_neg sigma] at here
        exact lowerOf_settled sigma here
    · exact ih _ d later

theorem lowerAfter_of_settled {before s : List Char} (settled : ∀ c ∈ s, Settled c) :
    lowerAfter before s = s := by
  induction s generalizing before with
  | nil => rfl
  | cons c rest ih =>
    obtain ⟨⟨other, fixed⟩, later⟩ := List.forall_mem_cons.mp settled
    simp [lowerAfter, other, fixed, ih later]

/-- A character that stays as it is, is there in lowercase too. -/
theorem mem_lowerAfter {c : Char} (settled : Settled c) {before s : List Char} (member : c ∈ s) :
    c ∈ lowerAfter before s := by
  induction s generalizing before with
  | nil => cases member
  | cons d s ih =>
    rw [lowerAfter, List.mem_append]
    rcases List.mem_cons.mp member with rfl | later
    · exact .inl (by simp [settled.1, settled.2])
    · exact .inr (ih later)

theorem lower_lower (s : List Char) : lower (lower s) = lower s :=
  lowerAfter_of_settled (lowerAfter_settled [] s)

end RpcBindings.Text
