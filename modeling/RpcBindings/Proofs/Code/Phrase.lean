import Mathlib.Data.List.TakeWhile
import RpcBindings.Proofs.Text.Lines
import RpcBindings.Proofs.Text.Uppercase

/-! Generated code read line by line. A phrase is a line of code with gaps for words, and says
something about the words that fill it; a line says what the first phrase says that fits it, and a
line that no phrase fits says nothing. Blanks around a line do not matter. -/
namespace RpcBindings.Code

open Text

/-- A character of a word: names, routes and the names of types are made of them. -/
def isWordChar (c : Char) : Bool := c.isAlphanum || c == '_' || c == '-' || c == '/'

/-- Whether a text is made of the characters of words. -/
def Wordy (s : List Char) : Prop := ∀ c ∈ s, isWordChar c = true

structure IsWord (s : List Char) : Prop where
  nonEmpty : s ≠ []
  chars : Wordy s

/-- A piece of a line: a character as it stands, or a gap that a word fills. -/
inductive Piece (σ : Type) where
  | char (c : Char)
  | gap (slot : σ)
  deriving DecidableEq, Repr

/-- A piece of code as it stands. -/
def code {σ : Type} (s : String) : List (Piece σ) := s.toList.map .char

def gap {σ : Type} (slot : σ) : List (Piece σ) := [.gap slot]

/-- What is said of some words. -/
structure Fact (ρ α : Type) where
  role : ρ
  words : List α
  deriving DecidableEq, Repr

def Fact.map {ρ α β : Type} (f : α → β) (fact : Fact ρ α) : Fact ρ β :=
  ⟨fact.role, fact.words.map f⟩

/-- A line of code with gaps, and what it says of the words in them. -/
structure Phrase (ρ σ : Type) where
  pieces : List (Piece σ)
  facts : List (Fact ρ σ)
  deriving DecidableEq, Repr

section Reading

variable {ρ σ : Type}

/-- Follows pieces along a line up to the blanks at its end, and gives the words in the gaps. -/
def follow : List (Piece σ) → List Char → Option (List (σ × List Char))
  | [], line => if line.all isBlank then some [] else none
  | .char _ :: _, [] => none
  | .char c :: rest, d :: line => if c = d then follow rest line else none
  | .gap slot :: rest, line =>
    if line.takeWhile isWordChar = [] then none
    else (follow rest (line.dropWhile isWordChar)).map ((slot, line.takeWhile isWordChar) :: ·)

/-- Whether the words in gaps end where the gaps do. -/
def spaced : List (Piece σ) → Bool
  | [] => true
  | .char _ :: rest => spaced rest
  | [.gap _] => true
  | .gap _ :: .gap _ :: _ => false
  | .gap _ :: .char c :: rest => !isWordChar c && spaced (.char c :: rest)

/-- Whether a line that is followed to its end does not end in a blank. -/
def closed : List (Piece σ) → Bool
  | [] => true
  | [.char c] => !isBlank c
  | [.gap _] => true
  | _ :: p :: rest => closed (p :: rest)

def gaps : List (Piece σ) → List σ
  | [] => []
  | .char _ :: rest => gaps rest
  | .gap slot :: rest => slot :: gaps rest

variable [DecidableEq σ]

def Phrase.read? (p : Phrase ρ σ) (line : List Char) : Option (List (Fact ρ (List Char))) :=
  (follow p.pieces line).map fun filled =>
    p.facts.map (Fact.map fun slot => (filled.lookup slot).getD [])

def readLine (phrases : List (Phrase ρ σ)) (line : List Char) : List (Fact ρ (List Char)) :=
  (phrases.findSome? (·.read? (trimStart line))).getD []

/-- What the lines of a text say, one after the other. -/
def readText (phrases : List (Phrase ρ σ)) (text : List Char) : List (Fact ρ (List Char)) :=
  (split '\n' text).flatMap (readLine phrases)

/-- Whether a phrase can be told from its line, and speaks of nothing but the words in its gaps. -/
def Phrase.isClear (p : Phrase ρ σ) : Bool :=
  p.pieces != [] && spaced p.pieces && closed p.pieces &&
    p.facts.all fun fact => fact.words.all (· ∈ gaps p.pieces)

end Reading

/-! ### Blanks and words -/

theorem isWordChar_eq (c : Char) : isWordChar c =
    (c.isUpper || c.isLower || c.isDigit || c == '_' || c == '-' || c == '/') := rfl

theorem isWordChar_ascii {c : Char} (word : isWordChar c = true) : c.toNat < 128 := by
  delta isWordChar Char.isAlphanum Char.isAlpha Char.isUpper Char.isLower Char.isDigit at word
  simp only [Bool.or_eq_true, beq_iff_eq, Bool.and_eq_true, decide_eq_true_eq, ge_iff_le,
    UInt32.le_iff_toNat_le] at word
  have code : c.toNat = c.val.toNat := rfl
  have bounds : 'Z'.val.toNat = 90 ∧ 'z'.val.toNat = 122 ∧ '9'.val.toNat = 57 := ⟨rfl, rfl, rfl⟩
  rcases word with ((((upper | lower) | digit) | rfl) | rfl) | rfl
  · omega
  · omega
  · omega
  all_goals decide

/-- What holds of the first 128 characters holds of those that words are made of. -/
theorem isWordChar_forall {P : Char → Prop} [DecidablePred P]
    (all : ∀ n < 128, isWordChar (Char.ofNat n) = true → P (Char.ofNat n)) {c : Char}
    (word : isWordChar c = true) : P c :=
  ascii_forall (P := fun c => isWordChar c = true → P c) all (isWordChar_ascii word) word

theorem isBlank_of_isWordChar {c : Char} (word : isWordChar c = true) : isBlank c = false :=
  isWordChar_forall (P := fun c => isBlank c = false) (by decide +kernel) word

theorem isWordChar_of_isBlank {c : Char} (blank : isBlank c = true) : isWordChar c = false := by
  refine Bool.eq_false_iff.mpr fun word => ?_
  rw [isBlank_of_isWordChar word] at blank
  cases blank

theorem Wordy.append {s t : List Char} (first : Wordy s) (second : Wordy t) : Wordy (s ++ t) :=
  List.forall_mem_append.mpr ⟨first, second⟩

theorem Wordy.oneLine {s : List Char} (wordy : Wordy s) : '\n' ∉ s := fun member => by
  have feed := wordy _ member
  cases feed

section

variable {ρ σ : Type} {blanks : List Char}

theorem dropWhile_append_blanks (blank : ∀ c ∈ blanks, isBlank c = true) (s : List Char) :
    (s ++ blanks).dropWhile isWordChar = s.dropWhile isWordChar ++ blanks ∧
      (s ++ blanks).takeWhile isWordChar = s.takeWhile isWordChar := by
  induction s with
  | nil =>
    cases blanks with
    | nil => exact ⟨rfl, rfl⟩
    | cons c blanks =>
      have other := isWordChar_of_isBlank (blank c List.mem_cons_self)
      simp [other]
  | cons c s ih =>
    by_cases word : isWordChar c = true
    · simp [word, ih]
    · simp [word]

theorem follow_blanks {pieces : List (Piece σ)} (ends : closed pieces = true) (some : pieces ≠ [])
    (blank : ∀ c ∈ blanks, isBlank c = true) : follow pieces blanks = none := by
  induction pieces generalizing blanks with
  | nil => exact absurd rfl some
  | cons piece rest ih =>
    cases blanks with
    | nil => cases piece <;> simp [follow]
    | cons d blanks =>
      obtain ⟨here, later⟩ := List.forall_mem_cons.mp blank
      cases piece with
      | gap slot => simp [follow, isWordChar_of_isBlank here]
      | char c =>
        by_cases same : c = d
        · subst same
          cases rest with
          | nil => simp [closed, here] at ends
          | cons next rest => simp [follow, ih ends (List.cons_ne_nil _ _) later]
        · simp [follow, same]

/-- Blanks at the end of a line do not matter to pieces that do not end in one. -/
theorem follow_append_blanks {pieces : List (Piece σ)} (ends : closed pieces = true)
    (blank : ∀ c ∈ blanks, isBlank c = true) (line : List Char) :
    follow pieces (line ++ blanks) = follow pieces line := by
  induction pieces generalizing line with
  | nil =>
    have all : blanks.all isBlank = true := List.all_eq_true.mpr blank
    simp [follow, all]
  | cons piece rest ih =>
    have later : closed rest = true := by
      cases rest with
      | nil => rfl
      | cons next rest => cases piece <;> exact ends
    cases piece with
    | gap slot =>
      obtain ⟨dropped, taken⟩ := dropWhile_append_blanks blank line
      simp only [follow, dropped, taken, ih later]
    | char c =>
      cases line with
      | nil => rw [List.nil_append, follow_blanks ends (List.cons_ne_nil _ _) blank]; rfl
      | cons d line => simp only [List.cons_append, follow, ih later]

end

/-! ### Texts -/

section

variable {ρ σ : Type} [DecidableEq σ] {phrases : List (Phrase ρ σ)}

theorem Phrase.isClear_iff {p : Phrase ρ σ} :
    p.isClear = true ↔ p.pieces ≠ [] ∧ spaced p.pieces = true ∧ closed p.pieces = true ∧
      ∀ fact ∈ p.facts, ∀ slot ∈ fact.words, slot ∈ gaps p.pieces := by
  simp [isClear, and_assoc]

theorem trimStart_append_blanks {blanks : List Char} (blank : ∀ c ∈ blanks, isBlank c = true)
    (line : List Char) :
    trimStart (line ++ blanks) = trimStart line ++ if trimStart line = [] then [] else blanks := by
  have none : blanks.dropWhile isBlank = [] := List.dropWhile_eq_nil_iff.mpr blank
  unfold trimStart
  rw [List.dropWhile_append]
  by_cases empty : line.dropWhile isBlank = []
  · simp [empty, none]
  · simp [empty]

theorem findSome?_of_eq {α β : Type} {f g : α → Option β} {row : List α}
    (same : ∀ x ∈ row, f x = g x) : row.findSome? f = row.findSome? g := by
  induction row with
  | nil => rfl
  | cons x row ih =>
    obtain ⟨here, later⟩ := List.forall_mem_cons.mp same
    rw [List.findSome?_cons, List.findSome?_cons, here, ih later]

theorem readLine_trimEnd (clear : ∀ p ∈ phrases, p.isClear = true) (line : List Char) :
    readLine phrases (trimEnd line) = readLine phrases line := by
  obtain ⟨blanks, cut, blank⟩ := trimEnd_append_blanks line
  have same : ∀ p ∈ phrases, p.read? (trimStart (trimEnd line)) = p.read? (trimStart line) := by
    intro p member
    obtain ⟨-, -, ends, -⟩ := Phrase.isClear_iff.mp (clear p member)
    have read := trimStart_append_blanks blank (trimEnd line)
    rw [← cut] at read
    rw [read, Phrase.read?, Phrase.read?]
    split
    · rw [List.append_nil]
    · rw [follow_append_blanks ends blank]
  rw [readLine, readLine, findSome?_of_eq same]

theorem readLine_nil (clear : ∀ p ∈ phrases, p.isClear = true) : readLine phrases [] = [] := by
  have none : phrases.findSome? (·.read? (trimStart [])) = none := by
    refine List.findSome?_eq_none_iff.mpr fun p member => ?_
    obtain ⟨some, -, ends, -⟩ := Phrase.isClear_iff.mp (clear p member)
    have unread : follow p.pieces [] = none := follow_blanks ends some nofun
    simp [Phrase.read?, trimStart, unread]
  rw [readLine, none]
  rfl

/-- A text says the same before and after its layout. -/
theorem readText_tidy (clear : ∀ p ∈ phrases, p.isClear = true) (text : List Char) :
    readText phrases (Layout.tidy text) = readText phrases text :=
  Layout.flatMap_tidy (readLine_nil clear) (readLine_trimEnd clear) text

/-- A line feed keeps apart what is said before and after it. -/
theorem readText_append_cons (before after : List Char) :
    readText phrases (before ++ '\n' :: after) =
      readText phrases before ++ readText phrases after := by
  simp only [readText, split_append_cons, List.flatMap_append]

theorem readText_line {line : List Char} (one : '\n' ∉ line) :
    readText phrases line = readLine phrases line := by
  simp [readText, split_of_not_mem one]

end

end RpcBindings.Code
