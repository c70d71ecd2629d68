import RpcBindings.Identifier
import RpcBindings.Proofs.Path
import RpcBindings.Proofs.Text.Split
import RpcBindings.Proofs.Text.Uppercase
import RpcBindings.Value

/-! Where no line feeds come from. Changing the case of letters puts none into a text, quoting takes
all of them out, and numbers are written without them. So a value from a document of settings is
printed on one line, unless it is a text that has line feeds itself. -/
namespace RpcBindings

/-! ### Another case -/

namespace Identifier

open Text

/-- A first character in another form brings no line feed into a name if no form does. -/
theorem feed_recaseFirst {form : Char → List Char} (keeps : ∀ c ≠ '\n', ∀ d ∈ form c, d ≠ '\n')
    {s : List Char} (free : '\n' ∉ s) : '\n' ∉ recaseFirst form s := by
  cases s with
  | nil => exact free
  | cons c rest =>
    obtain ⟨here, later⟩ := not_or.mp (mt List.mem_cons.mpr free)
    rw [recaseFirst, List.mem_cons, not_or]
    refine ⟨?_, later⟩
    split
    next d single => exact (keeps c (Ne.symm here) d (by simp [single])).symm
    next => exact here

theorem feed_lowerFirst {s : List Char} (free : '\n' ∉ s) : '\n' ∉ lowerFirst s := by
  refine feed_recaseFirst (fun c other d member => ?_) free
  rcases mem_lowerOf member with rfl | high
  · exact other
  · rintro rfl
    revert high
    decide

theorem feed_upperFirst {s : List Char} (free : '\n' ∉ s) : '\n' ∉ upperFirst s :=
  feed_recaseFirst (fun _ other _ member => unreached_feed.ne_of_mem other member) free

theorem feed_lowerCamel {s : List Char} (free : '\n' ∉ s) : '\n' ∉ lowerCamel s := by
  have part (p : List Char) (member : p ∈ split '_' s) : '\n' ∉ p :=
    fun inside => free (mem_of_mem_split member inside)
  unfold lowerCamel
  split
  case h_1 => exact List.not_mem_nil
  case h_2 first later split =>
    rw [split] at part
    rw [List.mem_append, List.mem_flatMap, not_or]
    refine ⟨part first List.mem_cons_self, ?_⟩
    rintro ⟨p, listed, inside⟩
    exact feed_upperFirst (part p (List.mem_cons_of_mem _ listed)) inside

theorem feed_typePrefix {s : List Char} (free : '\n' ∉ s) : '\n' ∉ typePrefix s := by
  unfold typePrefix
  split
  case h_1 => exact List.not_mem_nil
  case h_2 =>
    rw [List.mem_append, not_or]
    refine ⟨fun member => ?_, by decide⟩
    rcases mem_join member with between | ⟨_, listed, inside⟩
    · exact absurd between (by decide)
    · obtain ⟨part, segment, rfl⟩ := List.mem_map.mp listed
      exact feed_upperFirst (fun here => free (mem_of_mem_split segment here)) inside

theorem upperCode_ne_feed {code : Nat} (free : Char.ofNat code ≠ '\n') :
    Char.ofNat (upperCode code) ≠ '\n' := by
  unfold upperCode
  split
  case isTrue =>
    have single : '\n' ∉ upperFirst [Char.ofNat code] :=
      feed_upperFirst (by simpa using free.symm)
    cases shape : upperFirst [Char.ofNat code] with
    | nil => exact free
    | cons d rest =>
      rw [shape] at single
      simpa [Char.ofNat_toNat] using fun feed : d = '\n' => single (feed ▸ List.mem_cons_self)
  case isFalse => exact free

theorem feed_prefixCodes {codes : List Nat} (free : ∀ code ∈ codes, Char.ofNat code ≠ '\n')
    (fresh : Bool) : ∀ code ∈ prefixCodes fresh codes, Char.ofNat code ≠ '\n' := by
  have bar : Char.ofNat '_'.toNat ≠ '\n' := by decide
  induction codes generalizing fresh with
  | nil => exact List.forall_mem_cons.mpr ⟨bar, nofun⟩
  | cons code rest ih =>
    obtain ⟨here, later⟩ := List.forall_mem_cons.mp free
    rw [prefixCodes]
    split
    · exact List.forall_mem_cons.mpr ⟨bar, ih later true⟩
    · refine List.forall_mem_cons.mpr ⟨?_, ih later false⟩
      split
      · exact upperCode_ne_feed here
      · exact here

end Identifier

/-! ### Literals -/

namespace Text

theorem feed_hexDigits (width n : Nat) : '\n' ∉ hexDigits width n := by
  have digits : ∀ d < 16, Nat.digitChar d ≠ '\n' := by decide
  induction width generalizing n with
  | zero => exact List.not_mem_nil
  | succ width ih =>
    rw [hexDigits, List.mem_append, not_or]
    have digit := digits (n % 16) (Nat.mod_lt _ (by decide))
    exact ⟨ih _, mt List.mem_singleton.mp digit.symm⟩

theorem quoteMark_ne_feed (s : List Char) : quoteMark s ≠ '\n' := by
  unfold quoteMark
  split <;> decide

theorem feed_escaped {mark : Char} (other : mark ≠ '\n') (c : Char) : '\n' ∉ escaped mark c := by
  unfold escaped
  split
  next marked =>
    have free : c ≠ '\n' := by
      rcases marked with rfl | rfl
      · exact other
      · decide
    simp [free.symm]
  next =>
    split
    next => decide
    next free =>
      split
      next => decide
      next =>
        split
        next => decide
        next =>
          split
          next => simpa using Ne.symm free
          next => split <;> (try split) <;> simp [feed_hexDigits]

theorem feed_quote (s : String) : '\n' ∉ (quote s).toList := by
  have mark := quoteMark_ne_feed s.toList
  rw [quote, String.toList_ofList, quoted]
  simp [mark.symm, feed_escaped mark]

theorem CodePoints.feed_quote (s : CodePoints) : '\n' ∉ s.quote.toList := by
  cases s with
  | string s => exact Text.feed_quote s
  | broken codes =>
    have mark := quoteMark_ne_feed ((codes.filter Nat.isValidChar).map Char.ofNat)
    rw [quote, String.toList_ofList, quotedCodes]
    simp only [List.mem_append, List.mem_cons, List.mem_flatMap, mark.symm, List.not_mem_nil,
      or_self, false_or, or_false, not_exists, not_and]
    intro code member
    split
    · exact feed_escaped mark _
    · simp [feed_hexDigits]

end Text

/-! ### Numbers -/

namespace Text

theorem feed_toDigits (n : Nat) : '\n' ∉ Nat.toDigits 10 n := fun member => by
  have digit := Nat.isDigit_of_mem_toDigits (by decide) (Nat.le_refl 10) member
  cases digit

theorem feed_natRepr (n : Nat) : '\n' ∉ n.repr.toList := by
  rw [Nat.toList_repr]
  exact feed_toDigits n

theorem feed_intRepr (n : Int) : '\n' ∉ n.repr.toList := by
  cases n with
  | ofNat n => exact feed_natRepr n
  | negSucc n =>
    simp [Int.repr, feed_toDigits]

end Text

namespace Decimal

open Text

theorem feed_significant (n : Nat) : '\n' ∉ significant n := by
  rw [significant, List.mem_reverse]
  intro member
  exact feed_toDigits n (List.mem_reverse.mp ((List.dropWhile_sublist _).mem member))

theorem feed_search (i : Interval) (steps count : Nat) : '\n' ∉ (i.search steps count).digits := by
  induction steps generalizing count with
  | zero => simp [Interval.search]
  | succ steps ih =>
    rw [Interval.search]
    split
    · exact feed_significant _
    · exact ih _

theorem Digits.feed_written {d : Digits} (free : '\n' ∉ d.digits) : '\n' ∉ d.written := by
  have zeros (n : Nat) : '\n' ∉ List.replicate n '0' := fun member => by
    cases List.eq_of_mem_replicate member
  have head (n : Nat) : '\n' ∉ d.digits.take n := mt List.mem_of_mem_take free
  have tail (n : Nat) : '\n' ∉ d.digits.drop n := mt List.mem_of_mem_drop free
  have size := feed_toDigits (d.point - 1).natAbs
  unfold Digits.written
  split
  · split
    · simp [zeros, free]
    · dsimp only
      split
      · simp [head, tail]
      · simp [zeros, free]
  · have exponent : '\n' ∉ List.replicate (2 - (Nat.toDigits 10 (d.point - 1).natAbs).length) '0' ++
        Nat.toDigits 10 (d.point - 1).natAbs := by
      simp [zeros, size]
    have signed (sign : Char) (visible : '\n' ≠ sign) : '\n' ∉ 'e' :: sign ::
        (List.replicate (2 - (Nat.toDigits 10 (d.point - 1).natAbs).length) '0' ++
          Nat.toDigits 10 (d.point - 1).natAbs) := by
      simp only [List.mem_cons, visible, exponent, or_false]
      decide
    refine mt List.mem_append.mp (not_or.mpr ⟨?_, signed _ (by split <;> decide)⟩)
    split
    · exact List.not_mem_nil
    · next c single => rwa [← single]
    · next c more _ split =>
      rw [split] at free
      simpa using free

theorem feed_written (x : Float) : '\n' ∉ (written x).toList := by
  unfold written
  split
  · decide
  · have body : '\n' ∉ (if x.isInf then ['i', 'n', 'f'] else if x.abs == 0 then ['0', '.', '0']
        else (binaryOf x.abs).shortest.written) := by
      split
      · decide
      · split
        · decide
        · exact Digits.feed_written (feed_search _ _ _)
    rw [String.toList_ofList]
    split
    · exact mt List.mem_cons.mp (not_or.mpr ⟨by decide, body⟩)
    · exact body

end Decimal

/-! ### Values of settings -/

namespace Value

mutual

/-- Whether a value can come from a document of settings. -/
def isDocument : Value → Bool
  | null | bool _ | int _ | real _ | text _ => true
  | list items => allDocuments items
  | dict entries => entriesDocuments entries
  | _ => false

def allDocuments : List Value → Bool
  | [] => true
  | item :: rest => item.isDocument && allDocuments rest

def entriesDocuments : List (Text.CodePoints × Value) → Bool
  | [] => true
  | (_, item) :: rest => item.isDocument && entriesDocuments rest

end

mutual

/-- A value from a document is written as a literal on one line, whatever texts it holds. -/
theorem feed_literal : ∀ v : Value, v.isDocument = true → '\n' ∉ v.literal.toList
  | null, _ => by decide
  | bool b, _ => by cases b <;> decide
  | int n, _ => Text.feed_intRepr n
  | real x, _ => Decimal.feed_written x
  | text s, _ => s.feed_quote
  | list items, document => by
    have inside := feed_literals items document
    unfold literal
    simp [inside]
  | dict entries, document => by
    have inside := feed_literalEntries entries document
    unfold literal
    simp [inside]
  | tuple _, document => by cases document
  | record .., document => by cases document
  | method .., document => by cases document
  | builtin .., document => by cases document
  | type _, document => by cases document

theorem feed_literals : ∀ items : List Value, allDocuments items = true → '\n' ∉ (literals items).toList
  | [], _ => by simp [literals]
  | [item], documents => by
    have here := (Bool.and_eq_true_iff.mp documents).1
    exact feed_literal item here
  | item :: next :: rest, documents => by
    obtain ⟨here, later⟩ := Bool.and_eq_true_iff.mp documents
    have first := feed_literal item here
    have others := feed_literals (next :: rest) later
    simp [literals, first, others]

theorem feed_literalEntries : ∀ entries : List (Text.CodePoints × Value),
    entriesDocuments entries = true → '\n' ∉ (literalEntries entries).toList
  | [], _ => by simp [literalEntries]
  | [(key, item)], documents => by
    have here := feed_literal item (Bool.and_eq_true_iff.mp documents).1
    simp [literalEntries, here, key.feed_quote]
  | (key, item) :: next :: rest, documents => by
    obtain ⟨here, later⟩ := Bool.and_eq_true_iff.mp documents
    have first := feed_literal item here
    have others := feed_literalEntries (next :: rest) later
    simp [literalEntries, first, others, key.feed_quote]

end

end Value

end RpcBindings
