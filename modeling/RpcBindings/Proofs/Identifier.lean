import RpcBindings.Identifier
import RpcBindings.Proofs.Code.Phrase
import RpcBindings.Proofs.Text.Split

/-! Names of types behind the prefix of their package. An underscore stands there for every dot, and
the segments of a package can hold underscores of their own. But each segment starts in a capital
letter, and has no other one if the package is written in small letters; so the package and the type
can be told from the name. -/
namespace RpcBindings.Identifier

open Text

/-! ### Packages in small letters -/

/-- The segments of a package; the empty one has none. -/
def segments : List Char → List (List Char)
  | [] => []
  | c :: rest => split '.' (c :: rest)

theorem join_segments (p : List Char) : join ['.'] (segments p) = p := by
  cases p with
  | nil => rfl
  | cons c rest => exact join_split '.' (c :: rest)

theorem typePrefix_eq (p : List Char) :
    typePrefix p = ((segments p).map upperFirst).flatMap (· ++ ['_']) := by
  cases p with
  | nil => rfl
  | cons c rest =>
    exact join_append_sep (mt List.map_eq_nil_iff.mp (split_ne_nil '.' (c :: rest)))

/-- Whether a segment starts in a small letter and has no capital ones: behind the first letter can be
small letters, digits and underscores. -/
structure SmallSegment (s : List Char) : Prop where
  start : ∃ c ∈ s.head?, c.isLower = true
  small : ∀ c ∈ s, c.isUpper = false

/-- Whether a package is written in small letters. -/
def SmallPackage (p : List Char) : Prop := ∀ s ∈ segments p, SmallSegment s

instance (s : List Char) : Decidable (SmallSegment s) :=
  decidable_of_iff (s.head?.any Char.isLower = true ∧ s.all (fun c => !c.isUpper) = true) (by
    simp only [Option.any_eq_true, List.all_eq_true, Bool.not_eq_true']
    exact ⟨fun ⟨start, small⟩ => ⟨start, small⟩, fun ⟨start, small⟩ => ⟨start, small⟩⟩)

instance (p : List Char) : Decidable (SmallPackage p) :=
  inferInstanceAs (Decidable (∀ s ∈ segments p, SmallSegment s))

/-- Whether a text starts in a capital letter and has no other one. -/
def Capped (s : List Char) : Prop :=
  ∃ c rest, s = c :: rest ∧ c.isUpper = true ∧ ∀ d ∈ rest, d.isUpper = false

theorem Capped.ne_nil {s : List Char} (capped : Capped s) : s ≠ [] := by
  obtain ⟨c, rest, rfl, -, -⟩ := capped
  exact List.cons_ne_nil c rest

theorem upperFirst_small {c : Char} (small : c.isLower = true) (rest : List Char) :
    upperFirst (c :: rest) = c.toUpper :: rest ∧ c.toUpper.isUpper = true ∧
      lowerFirst (c.toUpper :: rest) = c :: rest := by
  have word : Code.isWordChar c = true := by simp [Code.isWordChar_eq, small]
  obtain ⟨written, capital, read⟩ := Code.isWordChar_forall
    (P := fun c => c.isLower = true → upperFirst [c] = [c.toUpper] ∧ c.toUpper.isUpper = true ∧
      lowerFirst [c.toUpper] = [c]) (by decide +kernel) word small
  exact ⟨congrArg (· ++ rest) written, capital, congrArg (· ++ rest) read⟩

theorem SmallSegment.capped {s : List Char} (segment : SmallSegment s) :
    Capped (upperFirst s) ∧ lowerFirst (upperFirst s) = s := by
  obtain ⟨c, first, small⟩ := segment.start
  obtain ⟨rest, rfl⟩ := List.head?_eq_some_iff.mp first
  obtain ⟨written, capital, read⟩ := upperFirst_small small rest
  have later := (List.forall_mem_cons.mp segment.small).2
  exact ⟨⟨c.toUpper, rest, written, capital, later⟩, by rw [written, read]⟩

theorem SmallPackage.capped {p : List Char} (package : SmallPackage p) :
    ∀ w ∈ (segments p).map upperFirst, Capped w := by
  intro w member
  obtain ⟨s, listed, rfl⟩ := List.mem_map.mp member
  exact (package s listed).capped.1

/-- A package is read back from its segments as they stand in the prefix. -/
theorem SmallPackage.read {p : List Char} (package : SmallPackage p) :
    join ['.'] (((segments p).map upperFirst).map lowerFirst) = p := by
  have back : ((segments p).map upperFirst).map lowerFirst = segments p := by
    rw [List.map_map]
    exact (List.map_congr_left fun s listed => (package s listed).capped.2).trans (List.map_id _)
  rw [back, join_segments]

/-! ### Reading a name -/

/-- Whether a text can stand behind the underscore that ends a segment: it starts with the next
segment, or is a name without underscores. -/
def Follows (s : List Char) : Prop := '_' ∉ s ∨ ∃ c ∈ s.head?, c.isUpper = true

theorem follows_of_capped {words : List (List Char)} (capped : ∀ w ∈ words, Capped w)
    {name : List Char} (plain : '_' ∉ name) : Follows (words.flatMap (· ++ ['_']) ++ name) := by
  cases words with
  | nil => exact .inl plain
  | cons word words =>
    obtain ⟨c, rest, rfl, capital, -⟩ := capped word List.mem_cons_self
    exact .inr ⟨c, rfl, capital⟩

/-- What follows a segment does not start with the end of a longer one: this has an underscore behind
it, and in it no capital letter. -/
theorem Follows.ne_append {s rest x y : List Char} (follows : Follows x)
    (capped : Capped (s ++ '_' :: rest)) (some : s ≠ []) : x ≠ rest ++ '_' :: y := by
  rintro rfl
  obtain ⟨c, tail, whole, -, small⟩ := capped
  obtain ⟨d, s, rfl⟩ := List.exists_cons_of_ne_nil some
  obtain ⟨rfl, rfl⟩ := List.cons.inj whole
  rcases follows with none | ⟨e, first, capital⟩
  · exact none (by simp)
  · cases rest with
    | nil =>
      cases first
      cases capital
    | cons e rest =>
      cases first
      have other := small e (by simp)
      rw [capital] at other
      cases other

theorem segment_unique {s t x y : List Char} (capped : Capped s) (cappedToo : Capped t)
    (follows : Follows x) (followsToo : Follows y) (same : s ++ '_' :: x = t ++ '_' :: y) :
    s = t ∧ x = y := by
  by_cases alike : s = t
  · subst alike
    exact ⟨rfl, (List.cons.inj (List.append_cancel_left same)).2⟩
  · rcases append_sep_cases same alike with ⟨rest, rfl, behind⟩ | ⟨rest, rfl, behind⟩
    · exact absurd behind (follows.ne_append cappedToo capped.ne_nil)
    · exact absurd behind (followsToo.ne_append capped cappedToo.ne_nil)

/-- Segments and the name behind them can be told from the text that they make: by induction on the
segments, the first one being told from what follows it. -/
theorem words_unique {words others : List (List Char)} (capped : ∀ w ∈ words, Capped w)
    (cappedToo : ∀ w ∈ others, Capped w) {name other : List Char} (plain : '_' ∉ name)
    (plainToo : '_' ∉ other)
    (same : words.flatMap (· ++ ['_']) ++ name = others.flatMap (· ++ ['_']) ++ other) :
    words = others ∧ name = other := by
  induction words generalizing others with
  | nil =>
    cases others with
    | nil => exact ⟨rfl, same⟩
    | cons word others =>
      rw [List.flatMap_nil, List.nil_append] at same
      exact absurd (by simp [same]) plain
  | cons word words ih =>
    cases others with
    | nil =>
      rw [List.flatMap_nil, List.nil_append] at same
      exact absurd (by simp [← same]) plainToo
    | cons next others =>
      obtain ⟨here, later⟩ := List.forall_mem_cons.mp capped
      obtain ⟨hereToo, laterToo⟩ := List.forall_mem_cons.mp cappedToo
      simp only [List.flatMap_cons, List.append_assoc, List.singleton_append] at same
      obtain ⟨rfl, rest⟩ := segment_unique here hereToo (follows_of_capped later plain)
        (follows_of_capped laterToo plainToo) same
      obtain ⟨rfl, rfl⟩ := ih later laterToo rest
      exact ⟨rfl, rfl⟩

/-- The package and the name of a type can be told from the name behind the prefix, and the package
from the prefix. -/
theorem typePrefix_append_inj {p q m n : List Char} (package : SmallPackage p)
    (packageToo : SmallPackage q) (name : '_' ∉ m) (nameToo : '_' ∉ n) :
    (typePrefix p ++ m = typePrefix q ++ n ↔ p = q ∧ m = n) ∧
      (typePrefix p = typePrefix q ↔ p = q) := by
  have told {m n : List Char} (name : '_' ∉ m) (nameToo : '_' ∉ n)
      (same : typePrefix p ++ m = typePrefix q ++ n) : p = q ∧ m = n := by
    rw [typePrefix_eq, typePrefix_eq] at same
    obtain ⟨words, names⟩ := words_unique package.capped packageToo.capped name nameToo same
    exact ⟨by rw [← package.read, words, packageToo.read], names⟩
  constructor
  · refine ⟨told name nameToo, ?_⟩
    rintro ⟨rfl, rfl⟩
    rfl
  · refine ⟨fun same => (told name name (same ▸ rfl)).1, ?_⟩
    rintro rfl
    rfl

/-- Underscores at the border of two segments do not blur it. -/
theorem typePrefix_append_inj_underscores :
    SmallPackage "a_.b".toList ∧ SmallPackage "a__b".toList ∧ '_' ∉ "Foo".toList ∧
      typePrefix "a_.b".toList ++ "Foo".toList ≠ typePrefix "a__b".toList ++ "Foo".toList := by
  have package : SmallPackage "a_.b".toList := by decide +kernel
  have other : SmallPackage "a__b".toList := by decide +kernel
  have name : '_' ∉ "Foo".toList := by decide +kernel
  refine ⟨package, other, name, fun same => ?_⟩
  have packages := ((typePrefix_append_inj package other name name).1.mp same).1
  exact absurd packages (by decide +kernel)

end RpcBindings.Identifier
