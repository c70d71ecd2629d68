import RpcBindings.Identifier
import RpcBindings.Proofs.Text.Split
import RpcBindings.Proofs.Text.Uppercase

/-! Names in camel case. The words between underscores are put together, which is the same as going
through the name once and writing every letter as it stands, or in uppercase behind an underscore. So
a name loses its underscores and nothing else, and has none to lose when it is written so again. -/
namespace RpcBindings.Identifier

open Text

/-! ### Letters in their places -/

/-- The letters of a name that stands behind the character `before`: all but the underscores, each
with what is immediately before it. -/
def lettersAfter (before : Option Char) (name : List Char) : List (Option Char × Char) :=
  ((before :: name.map some).zip name).filter (·.2 ≠ '_')

/-- The letters of a name. -/
def letters (name : List Char) : List (Option Char × Char) := lettersAfter none name

/-- The uppercase form of a character, unless it is not a single one. -/
def capital (c : Char) : Char := match upperOf c with | [d] => d | _ => c

/-- A letter in camel case: in uppercase behind an underscore, and else as it is. -/
def camelLetter (letter : Option Char × Char) : Char :=
  if letter.1 = some '_' then capital letter.2 else letter.2

theorem lettersAfter_bar (before : Option Char) (name : List Char) :
    lettersAfter before ('_' :: name) = lettersAfter (some '_') name := by
  simp [lettersAfter]

theorem lettersAfter_cons {c : Char} (letter : c ≠ '_') (before : Option Char) (name : List Char) :
    lettersAfter before (c :: name) = (before, c) :: lettersAfter (some c) name := by
  simp [lettersAfter, letter]

theorem map_lettersAfter (before : Option Char) (name : List Char) :
    (lettersAfter before name).map (·.2) = name.filter (· ≠ '_') := by
  induction name generalizing before with
  | nil => rfl
  | cons c rest ih =>
    by_cases bar : c = '_'
    · subst bar
      simp [lettersAfter_bar, ih]
    · simp [lettersAfter_cons bar, ih, bar]

/-! ### Words -/

theorem upperFirst_cons (c : Char) (rest : List Char) :
    upperFirst (c :: rest) = capital c :: rest := rfl

/-- Word by word is letter by letter: by induction on the name, of which the first word starts in
uppercase if there is an underscore before it. -/
theorem camel_lettersAfter (before : Option Char) {name first : List Char}
    {later : List (List Char)} (words : split '_' name = first :: later) :
    (lettersAfter before name).map camelLetter =
      (if before = some '_' then upperFirst first else first) ++ later.flatMap upperFirst := by
  induction name generalizing before first later with
  | nil =>
    obtain ⟨rfl, rfl⟩ := List.cons.inj words
    simp [lettersAfter, upperFirst, recaseFirst]
  | cons c rest ih =>
    obtain ⟨word, more, tail⟩ := List.exists_cons_of_ne_nil (split_ne_nil '_' rest)
    by_cases bar : c = '_'
    · subst bar
      rw [split_cons_sep, tail] at words
      obtain ⟨rfl, rfl⟩ := List.cons.inj words
      simp [lettersAfter_bar, ih (some '_') tail, upperFirst, recaseFirst]
    · rw [split, if_neg bar, tail] at words
      obtain ⟨rfl, rfl⟩ := List.cons.inj words
      rw [lettersAfter_cons bar, List.map_cons, ih (some c) tail]
      by_cases behind : before = some '_' <;> simp [bar, behind, upperFirst_cons, camelLetter]

theorem lowerCamel_eq (name : List Char) : lowerCamel name = (letters name).map camelLetter := by
  obtain ⟨first, later, words⟩ := List.exists_cons_of_ne_nil (split_ne_nil '_' name)
  rw [letters, camel_lettersAfter none words, lowerCamel, words]
  rfl

/-! ### What a name loses -/

theorem letter_ne_bar {name : List Char} {letter : Option Char × Char}
    (member : letter ∈ letters name) : letter.2 ≠ '_' := by
  simpa using (List.mem_filter.mp member).2

theorem capital_ne_bar {c : Char} (letter : c ≠ '_') : capital c ≠ '_' := by
  unfold capital
  split
  next d single => exact unreached_bar.ne_of_mem letter (by simp [single])
  next => exact letter

theorem bar_not_mem_lowerCamel (name : List Char) : '_' ∉ lowerCamel name := by
  rw [lowerCamel_eq]
  intro member
  obtain ⟨letter, listed, written⟩ := List.mem_map.mp member
  have other := letter_ne_bar listed
  rw [camelLetter] at written
  split at written
  · exact capital_ne_bar other written
  · exact other written

theorem length_lowerCamel (name : List Char) :
    (lowerCamel name).length + name.count '_' = name.length := by
  have kept : (letters name).length = (name.filter (· ≠ '_')).length := by
    rw [← map_lettersAfter none name, List.length_map, letters]
  have parts : name.length = name.count '_' + (name.filter (· ≠ '_')).length := by
    rw [← List.countP_eq_length_filter, List.count]
    simpa using List.length_eq_countP_add_countP (· == '_') (l := name)
  rw [lowerCamel_eq, List.length_map, kept]
  omega

theorem lowerCamel_of_not_mem {name : List Char} (none : '_' ∉ name) : lowerCamel name = name := by
  simp [lowerCamel, split_of_not_mem none]

/-- A name in camel case has no underscores, and its letters are those of the name in their places:
a letter is in uppercase exactly if there is an underscore immediately before it and its uppercase
form is a single character. -/
theorem lowerCamel_letters (name : List Char) :
    '_' ∉ lowerCamel name ∧
      (lowerCamel name).length + name.count '_' = name.length ∧
      (∀ k : Nat, (lowerCamel name)[k]? = (letters name)[k]?.map camelLetter) ∧
      lowerCamel (lowerCamel name) = lowerCamel name := by
  have none := bar_not_mem_lowerCamel name
  refine ⟨none, length_lowerCamel name, fun k => ?_, lowerCamel_of_not_mem none⟩
  rw [lowerCamel_eq, List.getElem?_map]

/-- A letter whose uppercase form is not a single character stays as it is. -/
example : lowerCamel "_a__ßb_ǆ9_".toList = "AßbǄ9".toList := by decide +kernel

end RpcBindings.Identifier
