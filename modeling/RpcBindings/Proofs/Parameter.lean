import RpcBindings.Parameter
import RpcBindings.Proofs.Entries
import RpcBindings.Proofs.Text.Blank
import RpcBindings.Proofs.Text.Split
import RpcBindings.Proofs.Text.Strip

/-! Parameters as settings in a row. A setting is read as it was written, if nothing in it could be
taken for something between settings, and what is read is the same whether the settings were written
one by one or all at once. So what is read from any parameter can be written and read again, and of
two parameters in a row the second one sets what it names over the first. -/
namespace RpcBindings

namespace Parameter

open Text

/-- A text that can stand between commas as it is. -/
structure Clean (s : List Char) : Prop where
  noComma : ',' ∉ s
  trimmed : Trimmed s

instance (s : List Char) : Decidable (Clean s) :=
  decidable_of_iff (',' ∉ s ∧ Trimmed s)
    ⟨fun ⟨comma, ends⟩ => ⟨comma, ends⟩, fun ⟨comma, ends⟩ => ⟨comma, ends⟩⟩

/-- A setting whose key and value can be told from what stands around them. -/
structure CleanPair (key value : List Char) : Prop where
  keyClean : Clean key
  valueClean : Clean value
  nonEmpty : key ≠ []
  noEquals : '=' ∉ key

instance (key value : List Char) : Decidable (CleanPair key value) :=
  decidable_of_iff (Clean key ∧ Clean value ∧ key ≠ [] ∧ '=' ∉ key)
    ⟨fun ⟨front, back, filled, equals⟩ => ⟨front, back, filled, equals⟩,
      fun ⟨front, back, filled, equals⟩ => ⟨front, back, filled, equals⟩⟩

theorem readPair_of_clean {key value : List Char} (clean : CleanPair key value) :
    readPair (key ++ '=' :: value) = some (key, value) := by
  have whole : trim (key ++ '=' :: value) = key ++ '=' :: value :=
    clean.keyClean.trimmed.append_cons clean.valueClean.trimmed (by decide)
  have keyKept : trim key = key := clean.keyClean.trimmed
  have valueKept : trim value = value := clean.valueClean.trimmed
  simp [readPair, whole, cut_of_not_mem clean.noEquals, keyKept, valueKept, clean.nonEmpty]

/-- The pair that a setting is written as. -/
def pairOf (setting : String × String) : List Char := setting.1.toList ++ '=' :: setting.2.toList

theorem toList_write (settings : List (String × String)) :
    (write settings).toList = join [','] (settings.map pairOf) := by
  have pair (setting : String × String) :
      (setting.1 ++ "=" ++ setting.2).toList = pairOf setting := by
    simp [pairOf, String.toList_append]
  rw [write, String.toList_intercalate, List.map_map, join_eq_intercalate]
  exact congrArg _ (List.map_congr_left fun setting _ => pair setting)

/-- The settings that stand in a parameter, in their order and with those that are set again. -/
def entries (parameter : List Char) : List (String × String) :=
  ((split ',' parameter).filterMap readPair).map fun (key, value) =>
    (String.ofList key, String.ofList value)

theorem read_eq (parameter : String) :
    read parameter = putEntries [] (entries parameter.toList) := rfl

theorem entries_cons {setting : String × String}
    (clean : CleanPair setting.1.toList setting.2.toList) (rest : List Char) :
    entries (pairOf setting ++ ',' :: rest) = setting :: entries rest := by
  have whole : ',' ∉ pairOf setting := by
    simp [pairOf, clean.keyClean.noComma, clean.valueClean.noComma]
  rw [entries, split_append_sep whole, List.filterMap_cons, pairOf, readPair_of_clean clean]
  simp [entries]

theorem entries_write {settings : List (String × String)} (some : settings ≠ [])
    (clean : ∀ setting ∈ settings, CleanPair setting.1.toList setting.2.toList) :
    entries (write settings).toList = settings := by
  have parts : split ',' (write settings).toList = settings.map pairOf := by
    rw [toList_write, split_join (by simpa using some)]
    intro part member
    obtain ⟨setting, listed, rfl⟩ := List.mem_map.mp member
    have := (clean setting listed).keyClean.noComma
    have := (clean setting listed).valueClean.noComma
    simp_all [pairOf]
  have pairs : (settings.map pairOf).filterMap readPair =
      settings.map fun setting => (setting.1.toList, setting.2.toList) := by
    rw [List.filterMap_map, ← List.filterMap_eq_map]
    exact List.filterMap_congr fun setting listed => readPair_of_clean (clean setting listed)
  simp [entries, parts, pairs, Function.comp_def]

theorem read_write {settings : List (String × String)} (some : settings ≠ [])
    (distinct : (settings.map (·.1)).Nodup)
    (clean : ∀ setting ∈ settings, CleanPair setting.1.toList setting.2.toList) :
    read (write settings) = settings := by
  rw [read_eq, entries_write some clean]
  exact (putEntries_of_nodup (by simpa using distinct)).trans (List.nil_append settings)

/-! ### What can be read -/

/-- A part of a text without commas is clean when it is trimmed. -/
theorem clean_trim {chunk s : List Char} (noComma : ',' ∉ chunk) (part : s ⊆ chunk) :
    Clean (trim s) :=
  ⟨fun member => noComma (part (mem_of_mem_trim member)), trimmed_trim s⟩

theorem readPair_eq (chunk : List Char) :
    readPair chunk =
      if trim ((trim chunk).takeWhile (· ≠ '=')) = [] then none
      else some (trim ((trim chunk).takeWhile (· ≠ '=')),
        trim ((trim chunk).dropWhile (· ≠ '=')).tail) := by
  simp only [readPair, cut_front, cut_back, List.isEmpty_iff]

theorem cleanPair_of_readPair {chunk key value : List Char} (noComma : ',' ∉ chunk)
    (found : readPair chunk = some (key, value)) : CleanPair key value := by
  rw [readPair_eq] at found
  split at found
  case isTrue => cases found
  case isFalse nonEmpty =>
    cases found
    have inside : trim chunk ⊆ chunk := fun _ => mem_of_mem_trim
    have front : (trim chunk).takeWhile (· ≠ '=') ⊆ trim chunk :=
      (List.takeWhile_sublist _).subset
    have back : ((trim chunk).dropWhile (· ≠ '=')).tail ⊆ trim chunk :=
      ((List.tail_sublist _).trans (List.dropWhile_sublist _)).subset
    refine ⟨clean_trim noComma (List.Subset.trans front inside),
      clean_trim noComma (List.Subset.trans back inside), nonEmpty, fun member => ?_⟩
    simpa using List.mem_takeWhile_imp (mem_of_mem_trim member)

/-- Settings as a parameter can hold them: no key twice, and each key and value as it is read. -/
structure Canonical (settings : List (String × String)) : Prop where
  distinct : (settings.map (·.1)).Nodup
  clean : ∀ setting ∈ settings, CleanPair setting.1.toList setting.2.toList

instance (settings : List (String × String)) : Decidable (Canonical settings) :=
  decidable_of_iff ((settings.map (·.1)).Nodup ∧
      ∀ setting ∈ settings, CleanPair setting.1.toList setting.2.toList)
    ⟨fun ⟨distinct, clean⟩ => ⟨distinct, clean⟩, fun ⟨distinct, clean⟩ => ⟨distinct, clean⟩⟩

theorem clean_entries (parameter : List Char) :
    ∀ setting ∈ entries parameter, CleanPair setting.1.toList setting.2.toList := by
  intro setting listed
  obtain ⟨⟨key, value⟩, found, rfl⟩ := List.mem_map.mp listed
  obtain ⟨chunk, part, pair⟩ := List.mem_filterMap.mp found
  simpa using cleanPair_of_readPair (not_mem_of_mem_split part) pair

theorem canonical_read (parameter : String) : Canonical (read parameter) := by
  rw [read_eq]
  refine ⟨nodup_putEntries _ List.nodup_nil, fun setting listed => ?_⟩
  rcases mem_of_mem_putEntries listed with none | set
  · cases none
  · exact clean_entries _ setting set

theorem read_write_of_canonical {settings : List (String × String)} (canonical : Canonical settings) :
    read (write settings) = settings := by
  by_cases empty : settings = []
  · subst empty
    rfl
  · exact read_write empty canonical.distinct canonical.clean

/-- Settings are read as they were written, and what is read from any parameter can be written. -/
theorem canonical_roundtrip :
    (∀ settings, Canonical settings → read (write settings) = settings) ∧
      ∀ parameter, Canonical (read parameter) ∧
        read (write (read parameter)) = read parameter := by
  refine ⟨fun _ => read_write_of_canonical, fun parameter => ?_⟩
  have canonical := canonical_read parameter
  exact ⟨canonical, read_write_of_canonical canonical⟩

/-- Values are kept with their equals signs, and empty ones too. -/
theorem canonical_roundtrip_equals :
    Canonical [("runtime_output", "a=b="), ("flag", ""), ("lang", "x y")] ∧
      read (write [("runtime_output", "a=b="), ("flag", ""), ("lang", "x y")]) =
        [("runtime_output", "a=b="), ("flag", ""), ("lang", "x y")] := by
  have canonical : Canonical [("runtime_output", "a=b="), ("flag", ""), ("lang", "x y")] := by
    decide +kernel
  exact ⟨canonical, canonical_roundtrip.1 _ canonical⟩

/-! ### Parameters in a row -/

/-- A chunk without a key has nothing but blanks before the first `=`, or at all. -/
def Keyless (chunk : List Char) : Prop := ∀ c ∈ chunk.takeWhile (· ≠ '='), isBlank c = true

instance (chunk : List Char) : Decidable (Keyless chunk) :=
  decidable_of_iff ((chunk.takeWhile (· ≠ '=')).all isBlank = true) List.all_eq_true

theorem keyless_append_left {blanks : List Char} (blank : ∀ c ∈ blanks, isBlank c = true)
    (chunk : List Char) : Keyless (blanks ++ chunk) ↔ Keyless chunk := by
  have passed : ∀ c ∈ blanks, decide (c ≠ '=') = true := by
    intro c member
    refine decide_eq_true fun equals => ?_
    have here := blank c member
    rw [equals] at here
    cases here
  rw [Keyless, List.takeWhile_append_of_pos passed, List.forall_mem_append]
  exact and_iff_right blank

theorem keyless_append_right {blanks : List Char} (blank : ∀ c ∈ blanks, isBlank c = true)
    (chunk : List Char) : Keyless (chunk ++ blanks) ↔ Keyless chunk := by
  rw [Keyless, Keyless, List.takeWhile_append]
  split
  case isTrue all =>
    have whole := (List.takeWhile_prefix (· ≠ '=') (l := chunk)).eq_of_length all
    have behind : ∀ c ∈ blanks.takeWhile (· ≠ '='), isBlank c = true :=
      fun c member => blank c ((List.takeWhile_sublist _).subset member)
    rw [List.forall_mem_append, whole]
    exact and_iff_left behind
  case isFalse => rfl

theorem keyless_trim (chunk : List Char) : Keyless (trim chunk) ↔ Keyless chunk := by
  obtain ⟨front, back, whole, before, behind⟩ := Layout.strip_between isBlank chunk
  rw [← trim_eq_strip] at whole
  conv_rhs => rw [whole, keyless_append_right behind, keyless_append_left before]

theorem readPair_eq_none_iff {chunk : List Char} : readPair chunk = none ↔ Keyless chunk := by
  rw [← keyless_trim, Keyless, ← trim_eq_nil_iff, readPair_eq]
  split <;> simp_all

theorem entries_append (first second : List Char) :
    entries (first ++ ',' :: second) = entries first ++ entries second := by
  simp [entries, split_append_cons]

theorem read_append (first second : String) :
    read (first ++ "," ++ second) = putEntries (read first) (read second) := by
  have whole : (first ++ "," ++ second).toList = first.toList ++ ',' :: second.toList := by
    simp [String.toList_append]
  rw [read_eq, whole, entries_append, putEntries_append, read_eq second, putEntries_putEntries_nil]
  rfl

theorem read_eq_nil {parameter : String}
    (keyless : ∀ chunk ∈ split ',' parameter.toList, Keyless chunk) : read parameter = [] := by
  have none : (split ',' parameter.toList).filterMap readPair = [] :=
    List.filterMap_eq_nil_iff.mpr fun chunk part => readPair_eq_none_iff.mpr (keyless chunk part)
  rw [read_eq, entries, none]
  rfl

/-- Of two parameters in a row the second one sets its keys over the first: a key of both keeps the
place that it has in the first and takes the value that it has in the second. Chunks without a key
change nothing, wherever they stand. -/
theorem read_in_row (first second : String) :
    read (first ++ "," ++ second) = putEntries (read first) (read second) ∧
      (read (first ++ "," ++ second)).map (·.1) =
        (read first).map (·.1) ++
          ((read second).map (·.1)).filter (fun key => key ∉ (read first).map (·.1)) ∧
      (∀ key, (read (first ++ "," ++ second)).lookup key =
        ((read second).lookup key).or ((read first).lookup key)) ∧
      ∀ empty : String, (∀ chunk ∈ split ',' empty.toList, Keyless chunk) →
        read empty = [] ∧
          read (empty ++ "," ++ second) = read second ∧
          read (first ++ "," ++ empty) = read first ∧
          read (first ++ "," ++ empty ++ "," ++ second) = read (first ++ "," ++ second) := by
  have distinct := (canonical_read second).distinct
  refine ⟨read_append first second, ?_, fun key => ?_, fun empty keyless => ?_⟩
  · rw [read_append, keys_putEntries distinct]
  · rw [read_append, lookup_putEntries_of_nodup distinct]
  · have none := read_eq_nil keyless
    have behind : read (first ++ "," ++ empty) = read first := by rw [read_append, none]; rfl
    have before : read (empty ++ "," ++ second) = read second := by
      rw [read_append, none]
      exact putEntries_of_nodup distinct
    exact ⟨none, before, behind, by rw [read_append, behind, ← read_append]⟩

/-- A key is set again behind chunks that have none. -/
theorem read_in_row_again :
    (∀ chunk ∈ split ',' " , =v,".toList, Keyless chunk) ∧
      read ("flag, lang = swift" ++ "," ++ " , =v," ++ "," ++ "lang=a=b,flag") =
        putEntries (read "flag, lang = swift") (read "lang=a=b,flag") := by
  have keyless : ∀ chunk ∈ split ',' " , =v,".toList, Keyless chunk := by decide +kernel
  obtain ⟨row, -, -, nothing⟩ := read_in_row "flag, lang = swift" "lang=a=b,flag"
  exact ⟨keyless, (nothing _ keyless).2.2.2.trans row⟩

end Parameter

end RpcBindings
