import RpcBindings.Proofs.Identifier.SnakeCase

/-! Names letter by letter. A letter is put into its other case only if that is a single character, so
no name gets longer or shorter by it, and a letter that has got its other case stays. Snake case puts
an underscore before every uppercase letter but the first one, and it is settled as soon as it leaves
no uppercase letter behind the first one. -/
namespace RpcBindings.Identifier

open Text

/-! ### One letter -/

/-- A letter in another form, unless that is not a single character. -/
def oneOf (form : Char → List Char) (c : Char) : Char := match form c with | [d] => d | _ => c

/-- The lowercase form of a character, unless it is not a single one. -/
def small (c : Char) : Char := oneOf lowerOf c

section

variable {form : Char → List Char}

theorem recaseFirst_cons (c : Char) (rest : List Char) :
    recaseFirst form (c :: rest) = oneOf form c :: rest := rfl

theorem oneOf_cases (form : Char → List Char) (c : Char) :
    oneOf form c = c ∨ form c = [oneOf form c] := by
  unfold oneOf
  split
  next single => exact .inr single
  next => exact .inl rfl

theorem oneOf_oneOf (stays : ∀ {c d}, form c = [d] → form d = [d]) (c : Char) :
    oneOf form (oneOf form c) = oneOf form c := by
  rcases oneOf_cases form c with own | single
  · rw [own, own]
  · have again := stays single
    rw [oneOf, again]

theorem tail_recaseFirst (name : List Char) : (recaseFirst form name).tail = name.tail := by
  cases name <;> rfl

theorem recaseFirst_recaseFirst (stays : ∀ {c d}, form c = [d] → form d = [d]) (name : List Char) :
    recaseFirst form (recaseFirst form name) = recaseFirst form name := by
  cases name with
  | nil => rfl
  | cons c rest => rw [recaseFirst_cons, recaseFirst_cons, oneOf_oneOf stays]

end

theorem small_small (c : Char) : small (small c) = small c := oneOf_oneOf lowerOf_single c

theorem small_ascii {c : Char} (ascii : c.toNat < 128) : small c = c.toLower := by
  simp [small, oneOf, (ascii_cases ascii).1]

/-! ### Snake case -/

theorem snakeChar_eq (c : Char) :
    snakeChar c = (if isUpper c then ['_'] else []) ++ [small c] := by
  rw [snakeChar]
  split <;> rfl

theorem snakeCase_cons (c : Char) (rest : List Char) :
    snakeCase (c :: rest) = small c :: rest.flatMap snakeChar := rfl

/-- Every character is written in its place, behind an underscore if it is uppercase and not the
first one. -/
theorem snakeCase_eq_mapIdx (name : List Char) :
    snakeCase name = (name.mapIdx fun i c =>
      (if 0 < i ∧ isUpper c = true then ['_'] else []) ++ [small c]).flatten := by
  cases name with
  | nil => rfl
  | cons c rest =>
    have later : (rest.mapIdx fun i c =>
        (if 0 < i + 1 ∧ isUpper c = true then ['_'] else []) ++ [small c]) = rest.map snakeChar := by
      apply List.ext_getElem <;> simp [snakeChar_eq]
    rw [List.mapIdx_cons, later]
    rfl

theorem length_flatMap_snakeChar (name : List Char) :
    (name.flatMap snakeChar).length = name.length + name.countP isUpper := by
  induction name with
  | nil => rfl
  | cons c rest ih =>
    rw [List.flatMap_cons, List.length_append, ih, snakeChar_eq, List.countP_cons, List.length_cons]
    by_cases upper : isUpper c = true <;> simp [upper] <;> omega

theorem length_snakeCase (name : List Char) :
    (snakeCase name).length = name.length + name.tail.countP isUpper := by
  cases name with
  | nil => rfl
  | cons c rest =>
    rw [snakeCase_cons, List.length_cons, length_flatMap_snakeChar, List.length_cons, List.tail_cons]
    omega

/-- A character of a name in snake case is an underscore or the lowercase form of one of the name. -/
theorem mem_snakeCase_cases {name : List Char} {c : Char} (member : c ∈ snakeCase name) :
    c = '_' ∨ ∃ d ∈ name, c = small d := by
  cases name with
  | nil => cases member
  | cons d rest =>
    rw [snakeCase_cons] at member
    rcases List.mem_cons.mp member with rfl | later
    · exact .inr ⟨d, List.mem_cons_self, rfl⟩
    · obtain ⟨e, listed, inside⟩ := List.mem_flatMap.mp later
      rw [snakeChar_eq] at inside
      rcases List.mem_append.mp inside with bar | letter
      · split at bar
        · exact .inl (List.mem_singleton.mp bar)
        · cases bar
      · exact .inr ⟨e, List.mem_cons_of_mem _ listed, List.mem_singleton.mp letter⟩

theorem small_of_mem_snakeCase {name : List Char} {c : Char} (member : c ∈ snakeCase name) :
    small c = c := by
  rcases mem_snakeCase_cases member with rfl | ⟨d, -, rfl⟩
  · decide +kernel
  · exact small_small d

/-! ### Names that stay in snake case -/

theorem snakeCase_of_no_upper {name : List Char} (low : ∀ c ∈ name.tail, isUpper c = false) :
    snakeCase name = name.map small := by
  cases name with
  | nil => rfl
  | cons c rest =>
    have letters : ∀ d ∈ rest, snakeChar d = [small d] := fun d listed => by
      rw [snakeChar_eq, low d listed]
      rfl
    rw [snakeCase_cons, List.flatMap_congr letters, ← List.map_eq_flatMap, List.map_cons]

theorem map_small_eq_self_iff {name : List Char} :
    name.map small = name ↔ ∀ c ∈ name, small c = c := by
  simpa using List.map_inj_left (l := name) (f := small) (g := id)

/-- The names that snake case leaves as they are: each letter is its own lowercase form, and none
behind the first one is uppercase. -/
theorem snakeCase_eq_self_iff {name : List Char} :
    snakeCase name = name ↔ (∀ c ∈ name, small c = c) ∧ ∀ c ∈ name.tail, isUpper c = false := by
  constructor
  · intro same
    have none : name.tail.countP isUpper = 0 := by
      have long := length_snakeCase name
      rw [same] at long
      omega
    have low : ∀ c ∈ name.tail, isUpper c = false := by simpa using none
    rw [snakeCase_of_no_upper low] at same
    exact ⟨map_small_eq_self_iff.mp same, low⟩
  · rintro ⟨own, low⟩
    rw [snakeCase_of_no_upper low]
    exact map_small_eq_self_iff.mpr own

/-- Snake case is settled after one step exactly if it leaves no uppercase letter behind the first. -/
theorem snakeCase_snakeCase_iff (name : List Char) :
    snakeCase (snakeCase name) = snakeCase name ↔ ∀ c ∈ (snakeCase name).tail, isUpper c = false :=
  snakeCase_eq_self_iff.trans (and_iff_right fun _ => small_of_mem_snakeCase)

/-- A letter can be uppercase and have no lowercase form. -/
example : snakeCase (snakeCase "aℂ".toList) = "a__ℂ".toList := by decide +kernel

theorem isUpper_of_mem_ascii {name : List Char} (ascii : ∀ c ∈ name, c.toNat < 128) {c : Char}
    (member : c ∈ snakeCase name) : isUpper c = false := by
  rcases mem_snakeCase_cases member with rfl | ⟨d, listed, rfl⟩
  · decide +kernel
  · have low := ascii d listed
    obtain ⟨lowToo, small⟩ := ascii_forall
      (P := fun d => d.toLower.toNat < 128 ∧ d.toLower.isUpper = false) (by decide +kernel) low
    rw [small_ascii low, (ascii_cases lowToo).2.2, small]

/-- A name keeps its length and all characters but the first one when that is put into lowercase or
uppercase, and it stays when that is done again. In snake case every character is written in its
lowercase form, where this is a single character, behind an underscore if it is uppercase and not the
first one; so the name gets longer by the uppercase characters behind the first one. A name of ASCII
stays when that is done again. -/
theorem recase_letters :
    (∀ name, (lowerFirst name).length = name.length ∧ (lowerFirst name).tail = name.tail ∧
      lowerFirst (lowerFirst name) = lowerFirst name) ∧
    (∀ name, (upperFirst name).length = name.length ∧ (upperFirst name).tail = name.tail ∧
      upperFirst (upperFirst name) = upperFirst name) ∧
    (∀ name, snakeCase name = (name.mapIdx fun i c =>
      (if 0 < i ∧ isUpper c = true then ['_'] else []) ++ [small c]).flatten) ∧
    (∀ name, (snakeCase name).length = name.length + name.tail.countP isUpper) ∧
    ∀ name, (∀ c ∈ name, c.toNat < 128) → snakeCase (snakeCase name) = snakeCase name := by
  refine ⟨fun name => ?_, fun name => ?_, snakeCase_eq_mapIdx, length_snakeCase, fun name ascii => ?_⟩
  · exact ⟨length_recaseFirst _ name, tail_recaseFirst name, recaseFirst_recaseFirst lowerOf_single name⟩
  · exact ⟨length_recaseFirst _ name, tail_recaseFirst name, recaseFirst_recaseFirst upperOf_single name⟩
  · exact (snakeCase_snakeCase_iff name).mpr fun c later =>
      isUpper_of_mem_ascii ascii (List.mem_of_mem_tail later)

theorem recase_letters_server :
    (∀ c ∈ "HTTPServer_2X".toList, c.toNat < 128) ∧
      snakeCase (snakeCase "HTTPServer_2X".toList) = "h_t_t_p_server_2_x".toList := by
  have ascii : ∀ c ∈ "HTTPServer_2X".toList, c.toNat < 128 := by simp
  exact ⟨ascii, (recase_letters.2.2.2.2 _ ascii).trans (by decide +kernel)⟩

end RpcBindings.Identifier
