import RpcBindings.Proofs.Code.Phrase
import RpcBindings.Proofs.Identifier.CamelCase

/-! Names in snake case and in camel case. Snake case marks a capital letter by an underscore, and
camel case marks an underscore by a capital letter: on the names that are customary each takes back
what the other did, but for the case of the first letter. -/
namespace RpcBindings.Identifier

open Text

/-- An ASCII name without underscores. -/
structure PlainName (name : List Char) : Prop where
  ascii : ∀ c ∈ name, c.toNat < 128
  noBar : '_' ∉ name

instance (name : List Char) : Decidable (PlainName name) :=
  decidable_of_iff (name.all (·.toNat < 128) = true ∧ '_' ∉ name) (by
    simp only [List.all_eq_true, decide_eq_true_eq]
    exact ⟨fun ⟨ascii, noBar⟩ => ⟨ascii, noBar⟩, fun ⟨ascii, noBar⟩ => ⟨ascii, noBar⟩⟩)

/-- A small letter or a digit of ASCII. -/
def isSmall (c : Char) : Bool := c.isLower || c.isDigit

/-- A first word of a name in snake case: small letters and digits. -/
structure FirstWord (word : List Char) : Prop where
  nonEmpty : word ≠ []
  small : ∀ c ∈ word, isSmall c = true

instance (word : List Char) : Decidable (FirstWord word) :=
  decidable_of_iff (word ≠ [] ∧ word.all isSmall = true) (by
    rw [List.all_eq_true]
    exact ⟨fun ⟨filled, small⟩ => ⟨filled, small⟩, fun ⟨filled, small⟩ => ⟨filled, small⟩⟩)

/-- A word behind an underscore: a small letter, then small letters and digits. -/
structure LaterWord (word : List Char) : Prop where
  start : ∃ c ∈ word.head?, c.isLower = true
  small : ∀ c ∈ word, isSmall c = true

instance (word : List Char) : Decidable (LaterWord word) :=
  decidable_of_iff (word.head?.any Char.isLower = true ∧ word.all isSmall = true) (by
    rw [Option.any_eq_true, List.all_eq_true]
    exact ⟨fun ⟨start, small⟩ => ⟨start, small⟩, fun ⟨start, small⟩ => ⟨start, small⟩⟩)

/-- A name in snake case: words with single underscores between them. -/
def SnakeName (name : List Char) : Prop :=
  ∃ first later, name = join ['_'] (first :: later) ∧ FirstWord first ∧ ∀ word ∈ later, LaterWord word

/-! ### Letters -/

theorem lowerFirst_ascii {c : Char} (ascii : c.toNat < 128) (rest : List Char) :
    lowerFirst (c :: rest) = c.toLower :: rest := by
  simp [lowerFirst, recaseFirst, (ascii_cases ascii).1]

theorem capital_ascii {c : Char} (ascii : c.toNat < 128) : capital c = c.toUpper := by
  simp [capital, (ascii_cases ascii).2.1]

theorem snakeChar_ascii {c : Char} (ascii : c.toNat < 128) :
    snakeChar c = if c.isUpper then ['_', c.toLower] else [c.toLower] := by
  rw [snakeChar, lowerFirst_ascii ascii, (ascii_cases ascii).2.2]

theorem toLower_ne_bar {c : Char} (ascii : c.toNat < 128) (letter : c ≠ '_') : c.toLower ≠ '_' :=
  ascii_forall (P := fun c => c ≠ '_' → c.toLower ≠ '_') (by decide +kernel) ascii letter

/-- A letter is written as it is, or as an underscore and a letter that it is the capital one of. -/
theorem snakeChar_cases {c : Char} (ascii : c.toNat < 128) (letter : c ≠ '_') :
    snakeChar c = [c] ∨
      ∃ d, snakeChar c = ['_', d] ∧ d.toNat < 128 ∧ d ≠ '_' ∧ d.toUpper = c := by
  rw [snakeChar_ascii ascii]
  by_cases upper : c.isUpper = true
  · obtain ⟨low, back⟩ := ascii_forall (P := fun c => c.isUpper = true →
      c.toLower.toNat < 128 ∧ c.toLower.toUpper = c) (by decide +kernel) ascii upper
    exact .inr ⟨c.toLower, if_pos upper, low, toLower_ne_bar ascii letter, back⟩
  · have same := ascii_forall (P := fun c => ¬c.isUpper = true → c.toLower = c)
      (by decide +kernel) ascii upper
    exact .inl (by rw [if_neg upper, same])

theorem isSmall_ascii {c : Char} (small : isSmall c = true) : c.toNat < 128 := by
  have letter : c.isLower = true ∨ c.isDigit = true := by simpa [isSmall] using small
  have word : Code.isWordChar c = true := by
    rcases letter with lower | digit
    · simp [Code.isWordChar_eq, lower]
    · simp [Code.isWordChar_eq, digit]
  exact Code.isWordChar_ascii word

theorem snakeChar_small {c : Char} (small : isSmall c = true) :
    c ≠ '_' ∧ snakeChar c = [c] ∧ c.toLower = c := by
  have ascii := isSmall_ascii small
  rw [snakeChar_ascii ascii]
  exact ascii_forall (P := fun c => isSmall c = true →
    c ≠ '_' ∧ (if c.isUpper then ['_', c.toLower] else [c.toLower]) = [c] ∧ c.toLower = c)
    (by decide +kernel) ascii small

theorem snakeChar_capital {c : Char} (small : c.isLower = true) : snakeChar (capital c) = ['_', c] := by
  have ascii : c.toNat < 128 := isSmall_ascii (by simp [isSmall, small])
  obtain ⟨high, upper, back⟩ := ascii_forall (P := fun c => c.isLower = true →
    c.toUpper.toNat < 128 ∧ c.toUpper.isUpper = true ∧ c.toUpper.toLower = c)
    (by decide +kernel) ascii small
  rw [capital_ascii ascii, snakeChar_ascii high, if_pos upper, back]

/-! ### From snake case to camel case -/

/-- Letters in snake case are the letters again in camel case, unless an underscore is before them. -/
theorem camel_flatMap_snakeChar {before : Option Char} (free : before ≠ some '_') {name : List Char}
    (plain : PlainName name) :
    (lettersAfter before (name.flatMap snakeChar)).map camelLetter = name := by
  induction name generalizing before with
  | nil => rfl
  | cons c rest ih =>
    obtain ⟨ascii, others⟩ := List.forall_mem_cons.mp plain.ascii
    obtain ⟨letter, later⟩ := not_or.mp (mt List.mem_cons.mpr plain.noBar)
    have back {d : Char} (other : d ≠ '_') :
        (lettersAfter (some d) (rest.flatMap snakeChar)).map camelLetter = rest :=
      ih (by simpa) ⟨others, later⟩
    rw [List.flatMap_cons]
    rcases snakeChar_cases ascii (Ne.symm letter) with own | ⟨d, written, low, other, read⟩
    · rw [own, List.singleton_append, lettersAfter_cons (Ne.symm letter), List.map_cons,
        back (Ne.symm letter), camelLetter, if_neg free]
    · rw [written, List.cons_append, List.singleton_append, lettersAfter_bar,
        lettersAfter_cons other, List.map_cons, back other, camelLetter, if_pos rfl, capital_ascii low,
        read]

theorem lowerCamel_snakeCase {name : List Char} (plain : PlainName name) :
    lowerCamel (snakeCase name) = lowerFirst name := by
  cases name with
  | nil => rfl
  | cons c rest =>
    obtain ⟨ascii, others⟩ := List.forall_mem_cons.mp plain.ascii
    obtain ⟨letter, later⟩ := not_or.mp (mt List.mem_cons.mpr plain.noBar)
    have other := toLower_ne_bar ascii (Ne.symm letter)
    rw [lowerFirst_ascii ascii, snakeCase, lowerFirst_ascii ascii, List.singleton_append,
      lowerCamel_eq, letters, lettersAfter_cons other, List.map_cons,
      camel_flatMap_snakeChar (by simpa) ⟨others, later⟩]
    rfl

/-- Two names are the same but for the case of their first letter. -/
def SameButFirst (name other : List Char) : Prop :=
  name.head?.map Char.toLower = other.head?.map Char.toLower ∧ name.tail = other.tail

theorem lowerFirst_eq_iff {name other : List Char} (plain : PlainName name)
    (plainToo : PlainName other) :
    lowerFirst name = lowerFirst other ↔ SameButFirst name other := by
  cases name with
  | nil => cases other <;> simp [SameButFirst, lowerFirst, recaseFirst]
  | cons c rest =>
    have ascii := plain.ascii c List.mem_cons_self
    cases other with
    | nil => simp [SameButFirst, lowerFirst, recaseFirst]
    | cons d more =>
      have asciiToo := plainToo.ascii d List.mem_cons_self
      simp [SameButFirst, lowerFirst_ascii ascii, lowerFirst_ascii asciiToo]

/-- The first letter of a name does not open a word, whatever its case. -/
theorem snakeCase_eq (name : List Char) :
    snakeCase name = (lowerFirst name).take 1 ++ (lowerFirst name).tail.flatMap snakeChar := by
  cases name <;> rfl

theorem snakeCase_eq_iff {name other : List Char} (plain : PlainName name)
    (plainToo : PlainName other) :
    snakeCase name = snakeCase other ↔ SameButFirst name other := by
  rw [← lowerFirst_eq_iff plain plainToo]
  constructor
  · intro same
    rw [← lowerCamel_snakeCase plain, same, lowerCamel_snakeCase plainToo]
  · intro same
    rw [snakeCase_eq, same, ← snakeCase_eq]

/-! ### From camel case to snake case -/

theorem flatMap_snakeChar_small {word : List Char} (small : ∀ c ∈ word, isSmall c = true) :
    word.flatMap snakeChar = word := by
  induction word with
  | nil => rfl
  | cons c rest ih =>
    obtain ⟨here, later⟩ := List.forall_mem_cons.mp small
    rw [List.flatMap_cons, (snakeChar_small here).2.1, ih later, List.singleton_append]

theorem bar_not_mem_small {word : List Char} (small : ∀ c ∈ word, isSmall c = true) : '_' ∉ word :=
  fun member => (snakeChar_small (small '_' member)).1 rfl

theorem LaterWord.read {word : List Char} (later : LaterWord word) :
    (upperFirst word).flatMap snakeChar = '_' :: word := by
  obtain ⟨c, first, lower⟩ := later.start
  obtain ⟨rest, rfl⟩ := List.head?_eq_some_iff.mp first
  have small := (List.forall_mem_cons.mp later.small).2
  rw [upperFirst_cons, List.flatMap_cons, snakeChar_capital lower, flatMap_snakeChar_small small]
  rfl

theorem snakeCase_lowerCamel {name : List Char} (snake : SnakeName name) :
    snakeCase (lowerCamel name) = name := by
  obtain ⟨first, later, rfl, opens, follow⟩ := snake
  have noBar : ∀ word ∈ first :: later, '_' ∉ word :=
    List.forall_mem_cons.mpr ⟨bar_not_mem_small opens.small,
      fun word listed => bar_not_mem_small (follow word listed).small⟩
  have camel : lowerCamel (join ['_'] (first :: later)) = first ++ later.flatMap upperFirst := by
    rw [lowerCamel, split_join (List.cons_ne_nil first later) noBar]
  have words : (later.flatMap upperFirst).flatMap snakeChar = later.flatMap ('_' :: ·) := by
    rw [List.flatMap_assoc]
    exact List.flatMap_congr fun word listed => (follow word listed).read
  obtain ⟨c, rest, rfl⟩ := List.exists_cons_of_ne_nil opens.nonEmpty
  obtain ⟨here, small⟩ := List.forall_mem_cons.mp opens.small
  rw [camel, join_cons, List.cons_append, snakeCase, lowerFirst_ascii (isSmall_ascii here),
    (snakeChar_small here).2.2, List.flatMap_append, flatMap_snakeChar_small small, words]
  rfl

/-- Camel case takes back what snake case does to plain names, but for the case of the first letter,
and snake case takes back all that camel case does to names in snake case. So it is the case of their
first letter in which plain names differ if they are alike in snake case, and no two names in snake
case are alike in camel case. -/
theorem camel_snake_inverse :
    (∀ name, PlainName name → lowerCamel (snakeCase name) = lowerFirst name) ∧
      (∀ name, SnakeName name → snakeCase (lowerCamel name) = name) ∧
      (∀ name other, PlainName name → PlainName other →
        (snakeCase name = snakeCase other ↔ SameButFirst name other)) ∧
      ∀ name other, SnakeName name → SnakeName other → lowerCamel name = lowerCamel other →
        name = other := by
  refine ⟨fun _ => lowerCamel_snakeCase, fun _ => snakeCase_lowerCamel,
    fun _ _ => snakeCase_eq_iff, ?_⟩
  intro name other snake snakeToo same
  rw [← snakeCase_lowerCamel snake, same, snakeCase_lowerCamel snakeToo]

/-- Capital letters in a row are words of their own, and digits do not end a word. -/
theorem camel_snake_inverse_runs :
    PlainName "HTTPServer2".toList ∧ PlainName "hTTPServer2".toList ∧
      SnakeName "2x_y_id0".toList ∧ SnakeName "2x_yid0".toList ∧
      lowerCamel (snakeCase "HTTPServer2".toList) = lowerFirst "HTTPServer2".toList ∧
      snakeCase (lowerCamel "2x_y_id0".toList) = "2x_y_id0".toList ∧
      snakeCase "HTTPServer2".toList = snakeCase "hTTPServer2".toList ∧
      lowerCamel "2x_y_id0".toList ≠ lowerCamel "2x_yid0".toList := by
  have plain : PlainName "HTTPServer2".toList := by decide +kernel
  have plainToo : PlainName "hTTPServer2".toList := by decide +kernel
  have snake : SnakeName "2x_y_id0".toList :=
    ⟨"2x".toList, ["y".toList, "id0".toList], by decide +kernel, by decide +kernel, by decide +kernel⟩
  have snakeToo : SnakeName "2x_yid0".toList :=
    ⟨"2x".toList, ["yid0".toList], by decide +kernel, by decide +kernel, by decide +kernel⟩
  obtain ⟨camel, back, alike, apart⟩ := camel_snake_inverse
  refine ⟨plain, plainToo, snake, snakeToo, camel _ plain, back _ snake,
    (alike _ _ plain plainToo).mpr (by unfold SameButFirst; decide +kernel), fun same => ?_⟩
  exact absurd (apart _ _ snake snakeToo same) (by decide +kernel)

end RpcBindings.Identifier
