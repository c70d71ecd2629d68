import Mathlib.Data.List.DropRight
import RpcBindings.Proofs.Code.Phrase

/-! Lines that are known in part: characters as they stand, slots that words fill, and text of which
nothing is known. From the known parts it can be told, for most lines, which phrase fits whatever
the rest is. -/
namespace RpcBindings.Code

open Text

inductive Part (σ : Type) where
  | char (c : Char)
  | slot (s : σ)
  /-- Any text on the line. -/
  | other
  deriving DecidableEq, Repr

variable {ρ σ : Type}

def Piece.part : Piece σ → Part σ
  | .char c => .char c
  | .gap s => .slot s

/-- Whether a text consists of the parts, given the words in the slots; all other characters are of
the kind that is `allowed`. -/
inductive Realizes (allowed : Char → Prop) (word : σ → List Char) : List (Part σ) → List Char → Prop
  | nil : Realizes allowed word [] []
  | char {c parts line} : allowed c → Realizes allowed word parts line →
      Realizes allowed word (.char c :: parts) (c :: line)
  | slot {s parts line} : Realizes allowed word parts line →
      Realizes allowed word (.slot s :: parts) (word s ++ line)
  | other {text parts line} : (∀ c ∈ text, allowed c) → Realizes allowed word parts line →
      Realizes allowed word (.other :: parts) (text ++ line)

variable {allowed : Char → Prop} {word : σ → List Char} {parts : List (Part σ)} {line : List Char}

/-- The slots of a line are filled by words. -/
def Filled (word : σ → List Char) (parts : List (Part σ)) : Prop :=
  ∀ s, .slot s ∈ parts → IsWord (word s)

theorem Filled.tail {part : Part σ} (filled : Filled word (part :: parts)) : Filled word parts :=
  fun s member => filled s (List.mem_cons_of_mem _ member)

theorem Realizes.append {more : List (Part σ)} {rest : List Char}
    (realized : Realizes allowed word parts line) (later : Realizes allowed word more rest) :
    Realizes allowed word (parts ++ more) (line ++ rest) := by
  induction realized with
  | nil => exact later
  | char fine _ ih => exact .char fine ih
  | slot _ ih => simpa using .slot ih
  | other fine _ ih => simpa using .other fine ih

theorem Realizes.split {first second : List (Part σ)} {text : List Char}
    (realized : Realizes allowed word (first ++ second) text) :
    ∃ here later, text = here ++ later ∧ Realizes allowed word first here ∧
      Realizes allowed word second later := by
  induction first generalizing text with
  | nil => exact ⟨[], text, rfl, .nil, realized⟩
  | cons part first ih =>
    cases realized with
    | char fine realized =>
      obtain ⟨here, later, rfl, before, after⟩ := ih realized
      exact ⟨_, later, (List.cons_append ..).symm, .char fine before, after⟩
    | slot realized =>
      obtain ⟨here, later, rfl, before, after⟩ := ih realized
      exact ⟨_, later, (List.append_assoc ..).symm, .slot before, after⟩
    | other fine realized =>
      obtain ⟨here, later, rfl, before, after⟩ := ih realized
      exact ⟨_, later, (List.append_assoc ..).symm, .other fine before, after⟩

/-- Without unknown text only the characters that are known have to be of a kind. -/
theorem Realizes.of_known {kind : Char → Prop} (realized : Realizes allowed word parts line)
    (fine : ∀ c, .char c ∈ parts → kind c) (known : .other ∉ parts) :
    Realizes kind word parts line := by
  induction realized with
  | nil => exact .nil
  | char _ _ ih =>
    have later := ih (fun c member => fine c (List.mem_cons_of_mem _ member))
      fun member => known (List.mem_cons_of_mem _ member)
    exact .char (fine _ List.mem_cons_self) later
  | slot _ ih =>
    exact .slot (ih (fun c member => fine c (List.mem_cons_of_mem _ member))
      fun member => known (List.mem_cons_of_mem _ member))
  | other _ _ _ => exact absurd List.mem_cons_self known

/-- Parts without line feeds make up a single line. -/
theorem Realizes.oneLine (realized : Realizes (· ≠ '\n') word parts line)
    (filled : Filled word parts) : '\n' ∉ line := by
  induction realized with
  | nil => exact List.not_mem_nil
  | char inside _ ih =>
    have later := ih filled.tail
    simp [inside.symm, later]
  | @slot s _ _ _ ih =>
    have here := (filled s List.mem_cons_self).chars.oneLine
    simp [here, ih filled.tail]
  | @other text _ _ inside _ ih =>
    have here : '\n' ∉ text := fun member => inside '\n' member rfl
    simp [here, ih filled.tail]

/-! ### The phrase that a line is -/

theorem IsWord.takeWhile_append {w rest : List Char} (isWord : IsWord w)
    (ends : ∀ c ∈ rest.head?, isWordChar c = false) :
    (w ++ rest).takeWhile isWordChar = w ∧ (w ++ rest).dropWhile isWordChar = rest := by
  have stop : rest.takeWhile isWordChar = [] ∧ rest.dropWhile isWordChar = rest := by
    cases rest with
    | nil => exact ⟨rfl, rfl⟩
    | cons c rest =>
      have other := ends c rfl
      simp [other]
  rw [List.takeWhile_append_of_pos isWord.chars, List.dropWhile_append_of_pos isWord.chars, stop.1,
    stop.2, List.append_nil]
  exact ⟨rfl, rfl⟩

/-- A phrase whose gaps are filled by words is followed to its end. -/
theorem follow_of_realizes {pieces : List (Piece σ)} (apart : spaced pieces = true)
    (filled : Filled word (pieces.map Piece.part))
    (realized : Realizes allowed word (pieces.map Piece.part) line) :
    follow pieces line = some ((gaps pieces).map fun s => (s, word s)) := by
  induction pieces generalizing line with
  | nil =>
    cases realized
    rfl
  | cons piece rest ih =>
    cases piece with
    | char c =>
      cases realized with
      | char _ realized => simpa [follow, gaps] using ih apart filled.tail realized
    | gap s =>
      cases realized with
      | @slot _ _ line realized =>
        have isWord : IsWord (word s) := filled s List.mem_cons_self
        have later : spaced rest = true := by
          cases rest with
          | nil => rfl
          | cons next rest =>
            cases next with
            | char c => exact (Bool.and_eq_true_iff.mp apart).2
            | gap t => cases apart
        have ends : ∀ c ∈ line.head?, isWordChar c = false := by
          cases rest with
          | nil =>
            cases realized
            intro c member
            cases member
          | cons next rest =>
            cases next with
            | gap t => cases apart
            | char c =>
              cases realized with
              | char _ _ => simpa [spaced] using (Bool.and_eq_true_iff.mp apart).1
        obtain ⟨taken, dropped⟩ := isWord.takeWhile_append ends
        simp [follow, gaps, taken, dropped, isWord.nonEmpty, ih later filled.tail realized]

/-! ### Phrases that a line is not -/

/-- Whether parts have a character that is no blank before any unknown text. -/
def solid : List (Part σ) → Bool
  | [] => false
  | .char c :: rest => !isBlank c || solid rest
  | .slot _ :: _ => true
  | .other :: _ => false

def Piece.isWordy : Piece σ → Bool
  | .char c => isWordChar c
  | .gap _ => true

def Part.isWordy : Part σ → Bool
  | .char c => isWordChar c
  | .slot _ => true
  | .other => false

/-- Whether pieces cannot be followed along a line, as is seen before any unknown text. Where words
are compared that are not known they may be the same, and it goes on behind them; `inWord` tells
that the line is there already. -/
def apart : (inWord : Bool) → List (Piece σ) → List (Part σ) → Bool
  | _, [], parts => solid parts
  | inWord, piece :: rest, parts =>
    if inWord && piece.isWordy then apart true rest parts
    else
      match piece, parts with
      | _, [] => true
      | _, .other :: _ => false
      | .char c, .char d :: parts => c != d || apart false rest parts
      | piece, part :: parts =>
        !(piece.isWordy && part.isWordy) || apart true rest (parts.dropWhile Part.isWordy)

theorem exists_not_blank_of_solid (known : solid parts = true) (filled : Filled word parts)
    (realized : Realizes allowed word parts line) : ∃ c ∈ line, isBlank c = false := by
  induction realized with
  | nil => cases known
  | @char c parts line _ _ ih =>
    simp only [solid, Bool.or_eq_true, Bool.not_eq_true'] at known
    rcases known with here | later
    · exact ⟨c, List.mem_cons_self, here⟩
    · obtain ⟨d, member, solid⟩ := ih later filled.tail
      exact ⟨d, List.mem_cons_of_mem _ member, solid⟩
  | @slot s parts line _ _ =>
    have isWord : IsWord (word s) := filled s List.mem_cons_self
    obtain ⟨c, member⟩ := List.exists_mem_of_ne_nil _ isWord.nonEmpty
    exact ⟨c, List.mem_append_left _ member, isBlank_of_isWordChar (isWord.chars c member)⟩
  | other _ _ _ => cases known

/-- The parts behind a word are those of the line behind it. -/
theorem realizes_dropWhile (filled : Filled word parts)
    (known : (parts.dropWhile Part.isWordy).head? ≠ some .other)
    (realized : Realizes allowed word parts line) :
    Realizes allowed word (parts.dropWhile Part.isWordy) (line.dropWhile isWordChar) := by
  induction realized with
  | nil => exact .nil
  | @char c parts line inside realized ih =>
    by_cases wordChar : isWordChar c = true
    · have wordy : (Part.char c : Part σ).isWordy = true := wordChar
      rw [List.dropWhile_cons_of_pos wordy] at known ⊢
      rw [List.dropWhile_cons_of_pos wordChar]
      exact ih filled.tail known
    · have other : ¬ (Part.char c : Part σ).isWordy = true := wordChar
      rw [List.dropWhile_cons_of_neg other, List.dropWhile_cons_of_neg wordChar]
      exact .char inside realized
  | @slot s parts line realized ih =>
    have isWord : IsWord (word s) := filled s List.mem_cons_self
    rw [List.dropWhile_append_of_pos isWord.chars]
    exact ih filled.tail known
  | other _ _ _ => exact absurd rfl known

/-- Pieces that can be followed can be followed from behind the word that a line starts with. -/
theorem follow_dropWhile {pieces : List (Piece σ)}
    (behind : follow (pieces.dropWhile Piece.isWordy) (line.dropWhile isWordChar) = none) :
    follow pieces line = none := by
  induction pieces generalizing line with
  | nil =>
    have some : line.all isBlank ≠ true := by
      intro all
      have blank : (line.dropWhile isWordChar).all isBlank = true :=
        List.all_eq_true.mpr fun c member =>
          List.all_eq_true.mp all c ((List.dropWhile_subset _) member)
      simp [follow, blank] at behind
    simp [follow, some]
  | cons piece rest ih =>
    cases piece with
    | char c =>
      cases line with
      | nil => rfl
      | cons d line =>
        by_cases same : c = d
        · subst same
          by_cases wordChar : isWordChar c = true
          · have wordy : (Piece.char c : Piece σ).isWordy = true := wordChar
            rw [List.dropWhile_cons_of_pos wordy, List.dropWhile_cons_of_pos wordChar] at behind
            simp [follow, ih behind]
          · have other : ¬ (Piece.char c : Piece σ).isWordy = true := wordChar
            rwa [List.dropWhile_cons_of_neg other, List.dropWhile_cons_of_neg wordChar] at behind
        · simp [follow, same]
    | gap s =>
      have later : follow rest (line.dropWhile isWordChar) = none := by
        refine ih ?_
        rw [List.dropWhile_idempotent]
        exact behind
      simp [follow, later]

theorem apart_other (inWord : Bool) (pieces : List (Piece σ)) :
    apart inWord pieces (.other :: parts) = false := by
  induction pieces generalizing inWord with
  | nil => rfl
  | cons piece rest ih =>
    rw [apart]
    split
    · exact ih true
    · cases piece <;> rfl

theorem follow_of_apart {inWord : Bool} {pieces : List (Piece σ)}
    (different : apart inWord pieces parts = true) (filled : Filled word parts)
    (realized : Realizes allowed word parts line) :
    follow (if inWord then pieces.dropWhile Piece.isWordy else pieces) line = none := by
  induction pieces generalizing inWord parts line with
  | nil =>
    obtain ⟨c, member, notBlank⟩ := exists_not_blank_of_solid different filled realized
    have some : ¬ line.all isBlank = true := fun all => by
      rw [List.all_eq_true.mp all c member] at notBlank
      cases notBlank
    simp [follow, some]
  | cons piece rest ih =>
    by_cases skipped : (inWord && piece.isWordy) = true
    · obtain ⟨rfl, wordy⟩ := Bool.and_eq_true_iff.mp skipped
      have later : apart true rest parts = true := by simpa [apart, skipped] using different
      simpa [wordy] using ih later filled realized
    · -- No word is left behind: the pieces are compared from the first one on.
      have whole : (if inWord then (piece :: rest).dropWhile Piece.isWordy else piece :: rest) =
          piece :: rest := by
        cases inWord with
        | false => rfl
        | true =>
          have other : ¬ piece.isWordy = true := by simpa using skipped
          simp [other]
      rw [whole]
      unfold apart at different
      rw [if_neg skipped] at different
      -- Two words are left behind together.
      have behind {part : Part σ} {parts : List (Part σ)} {line : List Char}
          (wordy : piece.isWordy = true) (known : part.isWordy = true)
          (different : apart true rest (parts.dropWhile Part.isWordy) = true)
          (filled : Filled word (part :: parts))
          (realized : Realizes allowed word (part :: parts) line) :
          follow (piece :: rest) line = none := by
        refine follow_dropWhile ?_
        have cut : (part :: parts).dropWhile Part.isWordy = parts.dropWhile Part.isWordy :=
          List.dropWhile_cons_of_pos known
        have here : (parts.dropWhile Part.isWordy).head? ≠ some .other := by
          intro unknown
          obtain ⟨later, split⟩ := List.head?_eq_some_iff.mp unknown
          rw [split, apart_other] at different
          cases different
        have remains := realizes_dropWhile filled (cut ▸ here) realized
        have later : Filled word (parts.dropWhile Part.isWordy) := fun s member =>
          filled s (List.mem_cons_of_mem _ (List.dropWhile_subset _ member))
        rw [cut] at remains
        rw [List.dropWhile_cons_of_pos wordy]
        exact ih different later remains
      cases realized with
      | nil => cases piece <;> rfl
      | other _ _ => cases piece <;> cases different
      | @char d parts line inside realized =>
        cases piece with
        | char c =>
          by_cases same : c = d
          · have later : apart false rest parts = true := by simpa [same] using different
            simpa [follow, same] using ih later filled.tail realized
          · simp [follow, same]
        | gap s =>
          by_cases wordChar : isWordChar d = true
          · have later : apart true rest (parts.dropWhile Part.isWordy) = true := by
              simpa [Piece.isWordy, Part.isWordy, wordChar] using different
            have known : (Part.char d : Part σ).isWordy = true := wordChar
            exact behind rfl known later filled (.char inside realized)
          · simp [follow, wordChar]
      | @slot t parts line realized =>
        cases piece with
        | char c =>
          by_cases wordChar : isWordChar c = true
          · have later : apart true rest (parts.dropWhile Part.isWordy) = true := by
              simpa [Piece.isWordy, Part.isWordy, wordChar] using different
            exact behind wordChar rfl later filled (.slot realized)
          · have isWord : IsWord (word t) := filled t List.mem_cons_self
            cases first : word t with
            | nil => exact absurd first isWord.nonEmpty
            | cons d w =>
              have here := isWord.chars d (by simp [first])
              have unlike : c ≠ d := fun same => wordChar (same ▸ here)
              simp [follow, unlike]
        | gap s =>
          have later : apart true rest (parts.dropWhile Part.isWordy) = true := by
            simpa [Piece.isWordy, Part.isWordy] using different
          exact behind rfl rfl later filled (.slot realized)

/-! ### Lines read by their parts -/

def Part.isBlank : Part σ → Bool
  | .char c => Text.isBlank c
  | _ => false

theorem realizes_trimStart (filled : Filled word parts)
    (known : (parts.dropWhile Part.isBlank).head? ≠ some .other)
    (realized : Realizes allowed word parts line) :
    Realizes allowed word (parts.dropWhile Part.isBlank) (trimStart line) := by
  induction realized with
  | nil => exact .nil
  | @char c parts line inside realized ih =>
    by_cases blank : isBlank c = true
    · have here : (Part.char c : Part σ).isBlank = true := blank
      rw [List.dropWhile_cons_of_pos here] at known ⊢
      rw [trimStart, List.dropWhile_cons_of_pos blank]
      exact ih filled.tail known
    · have here : ¬ (Part.char c : Part σ).isBlank = true := blank
      rw [List.dropWhile_cons_of_neg here, trimStart, List.dropWhile_cons_of_neg blank]
      exact .char inside realized
  | @slot s parts line realized ih =>
    have isWord : IsWord (word s) := filled s List.mem_cons_self
    have same : trimStart (word s ++ line) = word s ++ line := by
      cases first : word s with
      | nil => exact absurd first isWord.nonEmpty
      | cons d w =>
        have solid := isBlank_of_isWordChar (isWord.chars d (by simp [first]))
        simp [trimStart, solid]
    rw [same]
    exact .slot realized
  | other _ _ _ => exact absurd rfl known

section

variable [DecidableEq σ]

/-- What a line says whose parts these are: that of the first phrase that it is, if it is certain
that it is none of those before. -/
def choose (parts : List (Part σ)) : List (Phrase ρ σ) → Option (List (Fact ρ σ))
  | [] => some []
  | p :: rest =>
    if p.pieces.map Piece.part = parts then some p.facts
    else if apart false p.pieces parts then choose parts rest
    else none

/-- What a line says whose parts these are, whatever blanks it starts with. -/
def recognize (phrases : List (Phrase ρ σ)) (parts : List (Part σ)) : Option (List (Fact ρ σ)) :=
  match parts.dropWhile Part.isBlank with
  | .other :: _ => none
  | known => choose known phrases

theorem lookup_gaps {slots : List σ} {s : σ} (member : s ∈ slots) :
    (slots.map fun s => (s, word s)).lookup s = some (word s) := by
  induction slots with
  | nil => cases member
  | cons t slots ih =>
    rw [List.map_cons, List.lookup_cons]
    by_cases same : s = t
    · simp [same]
    · have later := ih ((List.mem_cons.mp member).resolve_left same)
      simpa [beq_false_of_ne same] using later

theorem read?_of_realizes {p : Phrase ρ σ} (clear : p.isClear = true)
    (filled : Filled word (p.pieces.map Piece.part))
    (realized : Realizes allowed word (p.pieces.map Piece.part) line) :
    p.read? line = some (p.facts.map (Fact.map word)) := by
  obtain ⟨-, spaced, -, known⟩ := Phrase.isClear_iff.mp clear
  have words :
      p.facts.map
          (Fact.map fun s => (((gaps p.pieces).map fun s => (s, word s)).lookup s).getD []) =
        p.facts.map (Fact.map word) := by
    refine List.map_congr_left fun fact member => ?_
    rw [Fact.map, Fact.map, List.map_congr_left]
    intro s mentioned
    rw [lookup_gaps (known fact member s mentioned)]
    rfl
  rw [Phrase.read?, follow_of_realizes spaced filled realized, Option.map_some, words]

theorem findSome?_of_choose {phrases : List (Phrase ρ σ)} {facts : List (Fact ρ σ)}
    (clear : ∀ p ∈ phrases, p.isClear = true) (chosen : choose parts phrases = some facts)
    (filled : Filled word parts) (realized : Realizes allowed word parts line) :
    (phrases.findSome? (·.read? line)).getD [] = facts.map (Fact.map word) := by
  induction phrases with
  | nil =>
    cases chosen
    rfl
  | cons p rest ih =>
    obtain ⟨here, later⟩ := List.forall_mem_cons.mp clear
    rw [choose] at chosen
    split at chosen
    case isTrue same =>
      subst same
      cases chosen
      simp [read?_of_realizes here filled realized]
    case isFalse =>
      split at chosen
      case isTrue different =>
        have unread : p.read? line = none := by
          have unfollowed := follow_of_apart different filled realized
          simp only [Bool.false_eq_true, if_false] at unfollowed
          rw [Phrase.read?, unfollowed]
          rfl
        simpa [unread] using ih later chosen
      case isFalse => cases chosen

theorem readLine_of_recognize {phrases : List (Phrase ρ σ)} {facts : List (Fact ρ σ)}
    (clear : ∀ p ∈ phrases, p.isClear = true) (recognized : recognize phrases parts = some facts)
    (filled : Filled word parts) (realized : Realizes allowed word parts line) :
    readLine phrases line = facts.map (Fact.map word) := by
  rw [recognize] at recognized
  split at recognized
  case h_1 => cases recognized
  case h_2 known =>
    have starts : (parts.dropWhile Part.isBlank).head? ≠ some .other := by
      intro unknown
      obtain ⟨later, split⟩ := List.head?_eq_some_iff.mp unknown
      exact known later split
    have words : Filled word (parts.dropWhile Part.isBlank) := fun s member =>
      filled s (List.dropWhile_subset _ member)
    exact findSome?_of_choose clear recognized words (realizes_trimStart filled starts realized)

end

end RpcBindings.Code
