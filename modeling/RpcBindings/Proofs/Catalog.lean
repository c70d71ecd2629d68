import RpcBindings.Catalog
import RpcBindings.Proofs.Entries
import RpcBindings.Proofs.Outcome
import RpcBindings.Proofs.Text.Lowercase

/-! Catalogs as registrations make them, refused ones among them. What a name or an alias stands for is
always a language that is there. It stays the same under further registrations, except that a language
can be registered under what has been an alias: the name then goes before the alias. -/
namespace RpcBindings

open Outcome

namespace Catalog

variable {c : Catalog} {language name : String} {target : Target}

/-! ### The case of a language -/

theorem key_key (language : String) : key (key language) = key language := by
  simp [key, Text.onString, Text.lower_lower]

theorem primary?_key (c : Catalog) (language : String) :
    c.primary? (key language) = c.primary? language := by
  simp only [primary?, key_key]

theorem find?_key (c : Catalog) (language : String) : c.find? (key language) = c.find? language := by
  simp only [find?, primary?_key]

/-- A language in lowercase gives the same generator; if there is none, both are unknown. -/
theorem createWith_key (c : Catalog) (language : String) (options : Options) :
    (∃ g, c.createWith language options = .ok g ∧ c.createWith (key language) options = .ok g) ∨
      c.createWith language options = .error (.unknownLanguage language c.languages) ∧
        c.createWith (key language) options =
          .error (.unknownLanguage (key language) c.languages) := by
  cases found : c.find? language with
  | some named => exact .inl ⟨⟨named.2, options, some named.2.template⟩,
      by simp [createWith, resolve, find?_key, found]⟩
  | none => exact .inr (by simp [createWith, resolve, find?_key, found])

/-! ### What a language is found under -/

theorem mem_languages_iff : name ∈ c.languages ↔ ∃ target, c.targets.lookup name = some target := by
  rw [languages, Text.mem_sorted, mem_names_iff]

theorem primary?_of_name (registered : c.targets.lookup (key language) = some target) :
    c.primary? language = some (key language) := by
  rw [primary?, if_pos (Option.isSome_iff_exists.mpr ⟨target, registered⟩)]

theorem primary?_of_alias (unregistered : c.targets.lookup (key language) = none) :
    c.primary? language = c.aliases.lookup (key language) := by
  rw [primary?, unregistered, if_neg (by simp)]

theorem resolveName_ok_iff : c.resolveName language = .ok name ↔ c.primary? language = some name := by
  unfold resolveName
  cases c.primary? language <;> simp

theorem resolve_ok_iff : c.resolve language = .ok (name, target) ↔
    c.primary? language = some name ∧ c.targets.lookup name = some target := by
  have found : c.resolve language = .ok (name, target) ↔ c.find? language = some (name, target) := by
    unfold resolve
    cases c.find? language <;> simp
  rw [found, find?, Option.bind_eq_some_iff]
  simp only [Option.map_eq_some_iff, Prod.mk.injEq]
  constructor
  · rintro ⟨_, primary, _, registered, rfl, rfl⟩
    exact ⟨primary, registered⟩
  · rintro ⟨primary, registered⟩
    exact ⟨name, primary, target, registered, rfl, rfl⟩

/-- A language is supported if there is a name behind it. -/
theorem supports_iff (c : Catalog) (language : String) :
    c.supports language = true ↔ ∃ name, c.resolveName language = .ok name := by
  simp only [resolveName_ok_iff]
  cases registered : c.targets.lookup (key language) with
  | some target => simp [supports, registered, primary?_of_name registered]
  | none => simp [supports, registered, primary?_of_alias registered, Option.isSome_iff_exists]

theorem mem_aliasesOf_iff {synonym : String} :
    synonym ∈ c.aliasesOf language ↔ (synonym, key language) ∈ c.aliases := by
  simp [aliasesOf, Text.mem_sorted]

/-! ### Registrations -/

/-- What is told to register a language. -/
structure Registration where
  language : String
  /-- The target, if what is told to be one is. -/
  candidate : Option Target
  aliases : List String := []
  replace : Bool := false

namespace Registration

/-- The name that the language is kept under. -/
def primary (r : Registration) : String := key r.language

/-- The aliases as they are kept. -/
def synonyms (r : Registration) : List String := (r.aliases.map key).filter (· ≠ r.primary)

end Registration

/-- The catalog with a target under the name and the aliases of a registration. -/
def put (c : Catalog) (r : Registration) (target : Target) : Catalog where
  targets := putEntry r.primary target c.targets
  aliases := putEntries c.aliases (r.synonyms.map fun synonym => (synonym, r.primary))

/-- Whether a registration goes through if there is a target: what is there is to be replaced, or the
name is new and no alias stands for something else. -/
def Admits (c : Catalog) (r : Registration) : Prop :=
  r.replace = true ∨
    c.targets.lookup r.primary = none ∧ ∀ synonym ∈ r.synonyms, c.conflict? r.primary synonym = none

/-- What can come of a registration. -/
inductive Registers (c : Catalog) (r : Registration) : Except CatalogError Catalog → Prop
  | unfit (absent : r.candidate = none) : Registers c r (.error .notTarget)
  | known {new old : Target} (offered : r.candidate = some new) (kept : r.replace = false)
      (registered : c.targets.lookup r.primary = some old) : Registers c r (.ok c)
  | conflict {new : Target} {synonym : String} {cause : CatalogError}
      (offered : r.candidate = some new) (kept : r.replace = false)
      (unregistered : c.targets.lookup r.primary = none) (listed : synonym ∈ r.synonyms)
      (refused : c.conflict? r.primary synonym = some cause) : Registers c r (.error cause)
  | done {new : Target} (offered : r.candidate = some new) (admitted : c.Admits r) :
      Registers c r (.ok (c.put r new))

variable {r : Registration}

theorem registers (c : Catalog) (r : Registration) :
    c.Registers r (c.register r.language r.candidate r.aliases r.replace) := by
  unfold register
  cases offered : r.candidate with
  | none => exact .unfit offered
  | some target =>
    dsimp only
    cases kept : r.replace with
    | true =>
      simp only [Bool.not_true, Bool.and_false, Bool.false_eq_true, if_false, if_true]
      exact .done offered (.inl kept)
    | false =>
      simp only [Bool.not_false, Bool.and_true, Bool.false_eq_true, if_false]
      split
      next taken =>
        obtain ⟨old, registered⟩ := Option.isSome_iff_exists.mp taken
        exact .known offered kept registered
      next new =>
        have registered : c.targets.lookup r.primary = none := Option.not_isSome_iff_eq_none.mp new
        split
        next cause refusal =>
          obtain ⟨synonym, listed, refused⟩ := List.exists_of_findSome?_eq_some refusal
          exact .conflict offered kept registered listed refused
        next refusal =>
          exact .done offered (.inr ⟨registered, List.findSome?_eq_none_iff.mp refusal⟩)

/-- The catalog after a registration; one that is refused leaves everything as it was. -/
def enter (c : Catalog) (r : Registration) : Catalog :=
  match c.register r.language r.candidate r.aliases r.replace with
  | .ok next => next
  | .error _ => c

/-- The catalog that registrations make of an empty one. -/
def ofHistory (history : List Registration) : Catalog := history.foldl enter {}

theorem enter_cases (c : Catalog) (r : Registration) :
    c.enter r = c ∨ ∃ target, r.candidate = some target ∧ c.Admits r ∧ c.enter r = c.put r target := by
  have outcome := registers c r
  unfold enter
  cases came : c.register r.language r.candidate r.aliases r.replace with
  | error cause => exact .inl rfl
  | ok next =>
    rw [came] at outcome
    cases outcome with
    | known => exact .inl rfl
    | done offered admitted => exact .inr ⟨_, offered, admitted, rfl⟩

theorem Admits.of_kept (admitted : c.Admits r) (kept : r.replace = false) :
    c.targets.lookup r.primary = none ∧ ∀ synonym ∈ r.synonyms, c.conflict? r.primary synonym = none := by
  simpa [Admits, kept] using admitted

theorem enter_of_admits (offered : r.candidate = some target) (admitted : c.Admits r) :
    c.enter r = c.put r target := by
  have outcome := registers c r
  unfold enter
  cases came : c.register r.language r.candidate r.aliases r.replace with
  | error cause =>
    rw [came] at outcome
    cases outcome with
    | unfit absent => cases absent.symm.trans offered
    | conflict _ kept _ listed refused =>
      cases ((admitted.of_kept kept).2 _ listed).symm.trans refused
  | ok next =>
    rw [came] at outcome
    cases outcome with
    | known _ kept registered => cases (admitted.of_kept kept).1.symm.trans registered
    | done here =>
      cases here.symm.trans offered
      rfl

theorem lookup_targets_put (c : Catalog) (r : Registration) (target : Target) (name : String) :
    (c.put r target).targets.lookup name =
      if name = r.primary then some target else c.targets.lookup name :=
  lookup_putEntry r.primary target c.targets name

theorem lookup_aliases_put (c : Catalog) (r : Registration) (target : Target) (synonym : String) :
    (c.put r target).aliases.lookup synonym =
      if synonym ∈ r.synonyms then some r.primary else c.aliases.lookup synonym :=
  lookup_putEntries_const r.synonyms r.primary

theorem Registration.synonym_spelled {synonym : String} (listed : synonym ∈ r.synonyms) :
    key synonym = synonym ∧ synonym ≠ r.primary := by
  obtain ⟨given, other⟩ := List.mem_filter.mp listed
  obtain ⟨spelling, -, rfl⟩ := List.mem_map.mp given
  exact ⟨key_key spelling, by simpa using other⟩

/-- What is registered is found under its name, and under each of its aliases that is not a name. -/
theorem resolve_put (target : Target)
    (named : key language = r.primary ∨
      key language ∈ r.synonyms ∧ c.targets.lookup (key language) = none) :
    (c.put r target).resolve language = .ok (r.primary, target) := by
  have registered : (c.put r target).targets.lookup r.primary = some target := by
    rw [lookup_targets_put, if_pos rfl]
  refine resolve_ok_iff.mpr ⟨?_, registered⟩
  rcases named with spelled | ⟨listed, free⟩
  · rw [← spelled] at registered
    rw [primary?_of_name registered, spelled]
  · obtain ⟨-, other⟩ := Registration.synonym_spelled listed
    rw [primary?_of_alias (by rw [lookup_targets_put, if_neg other, free]), lookup_aliases_put,
      if_pos listed]

/-! ### What registrations leave behind -/

/-- Whether names and aliases are in lowercase and every alias stands for the name of a language that is
there, which is not the alias itself. -/
structure Sound (c : Catalog) : Prop where
  distinct : (c.aliases.map (·.1)).Nodup
  lower : ∀ name target, c.targets.lookup name = some target → key name = name
  aliased : ∀ synonym name, c.aliases.lookup synonym = some name →
    key synonym = synonym ∧ synonym ≠ name ∧ ∃ target, c.targets.lookup name = some target

theorem Sound.put (sound : c.Sound) (r : Registration) (target : Target) : (c.put r target).Sound where
  distinct := nodup_putEntries _ sound.distinct
  lower := by
    intro name other registered
    rw [lookup_targets_put] at registered
    split at registered
    case isTrue same =>
      rw [same]
      exact key_key r.language
    case isFalse => exact sound.lower name other registered
  aliased := by
    intro synonym name stands
    simp only [lookup_targets_put]
    rw [lookup_aliases_put] at stands
    split at stands
    case isTrue listed =>
      cases stands
      obtain ⟨spelled, other⟩ := Registration.synonym_spelled listed
      exact ⟨spelled, other, target, if_pos rfl⟩
    case isFalse =>
      obtain ⟨spelled, other, old, registered⟩ := sound.aliased synonym name stands
      refine ⟨spelled, other, ?_⟩
      split
      case isTrue => exact ⟨target, rfl⟩
      case isFalse => exact ⟨old, registered⟩

theorem Sound.enter (sound : c.Sound) (r : Registration) : (c.enter r).Sound := by
  rcases enter_cases c r with same | ⟨target, -, -, done⟩
  · rw [same]
    exact sound
  · rw [done]
    exact sound.put r target

theorem Sound.empty : Sound {} where
  distinct := List.nodup_nil
  lower := by simp
  aliased := by simp

theorem sound_ofHistory (history : List Registration) : (ofHistory history).Sound := by
  have kept (c : Catalog) (sound : c.Sound) : (history.foldl Catalog.enter c).Sound := by
    induction history generalizing c with
    | nil => exact sound
    | cons r later ih => exact ih _ (sound.enter r)
  exact kept {} Sound.empty

theorem sound_builtin : builtin.Sound where
  distinct := List.nodup_singleton "kt"
  lower name target registered := by
    have spelled : ∀ own ∈ builtin.targets.map (·.1), key own = own := by decide +kernel
    exact spelled name (mem_names_iff.mpr ⟨target, registered⟩)
  aliased synonym name stands := by
    obtain ⟨rfl, rfl⟩ := Prod.mk.inj (List.mem_singleton.mp (mem_of_lookup stands))
    exact ⟨by decide +kernel, by decide, Target.kotlin, rfl⟩

theorem Sound.registered (sound : c.Sound) (primary : c.primary? language = some name) :
    ∃ target, c.targets.lookup name = some target := by
  cases own : c.targets.lookup (key language) with
  | some target =>
    cases (primary?_of_name own).symm.trans primary
    exact ⟨target, own⟩
  | none =>
    rw [primary?_of_alias own] at primary
    exact (sound.aliased _ _ primary).2.2

/-- Whether all that is found in a catalog leads to a language that it lists. -/
structure Coherent (c : Catalog) : Prop where
  supported : ∀ language, c.supports language = true ↔ ∃ name, c.resolveName language = .ok name
  listed : ∀ language name, c.resolveName language = .ok name → name ∈ c.languages
  found : ∀ language name, c.resolveName language = .ok name →
    ∃ target, c.targets.lookup name = some target ∧ c.resolve language = .ok (name, target)
  described : ∀ language name, c.resolveName language = .ok name → ∃ info, c.info language = .ok info
  settled : ∀ language name, c.resolveName language = .ok name → c.resolveName name = .ok name
  aliased : ∀ entry ∈ c.aliases, entry.2 ∈ c.languages
  caseless : ∀ language other, key language = key other → ∀ name,
    c.resolveName language = .ok name ↔ c.resolveName other = .ok name

theorem Sound.coherent (sound : c.Sound) : c.Coherent := by
  have found {language name : String} (named : c.resolveName language = .ok name) :
      ∃ target, c.targets.lookup name = some target ∧ c.resolve language = .ok (name, target) := by
    have primary := resolveName_ok_iff.mp named
    obtain ⟨target, registered⟩ := sound.registered primary
    exact ⟨target, registered, resolve_ok_iff.mpr ⟨primary, registered⟩⟩
  exact {
    supported := c.supports_iff
    listed := by
      intro language name named
      exact mem_languages_iff.mpr (sound.registered (resolveName_ok_iff.mp named))
    found := fun _ _ named => found named
    described := by
      intro language name named
      obtain ⟨target, -, resolved⟩ := found named
      rw [info, resolved]
      exact ⟨_, rfl⟩
    settled := by
      intro language name named
      obtain ⟨target, registered⟩ := sound.registered (resolveName_ok_iff.mp named)
      have spelled := sound.lower name target registered
      rw [← spelled] at registered
      rw [resolveName_ok_iff, primary?_of_name registered, spelled]
    aliased := by
      intro entry member
      obtain ⟨-, -, registered⟩ := sound.aliased _ _ ((lookup_iff_mem sound.distinct).mpr member)
      exact mem_languages_iff.mpr registered
    caseless := by
      intro language other same name
      rw [resolveName_ok_iff, resolveName_ok_iff, ← primary?_key c language, same, primary?_key] }

/-- Whatever has been registered, refused or replaced, a name that is found is that of a language; and
what is registered next is found, if it is not refused. -/
theorem ofHistory_coherent (history : List Registration) : (ofHistory history).Coherent ∧
    ∀ r target, r.candidate = some target → (ofHistory history).Admits r →
      ∀ language, (key language = r.primary ∨ key language ∈ r.synonyms ∧
        (ofHistory history).targets.lookup (key language) = none) →
        (ofHistory (history ++ [r])).resolve language = .ok (r.primary, target) := by
  refine ⟨(sound_ofHistory history).coherent, ?_⟩
  intro r target offered admitted language named
  have next : ofHistory (history ++ [r]) = (ofHistory history).enter r := List.foldl_concat ..
  rw [next, enter_of_admits offered admitted]
  exact resolve_put target named

/-- Kotlin with its alias. -/
def kotlinFirst : Registration := ⟨"kotlin", some Target.kotlin, ["kt"], false⟩

/-- Swift with an alias that only repeats its name, and one in mixed case. -/
def swiftNext : Registration := ⟨"Swift", some Target.swift, ["swift", "Sw"], false⟩

theorem ofHistory_coherent_swift : (ofHistory [kotlinFirst]).Admits swiftNext ∧
    (ofHistory [kotlinFirst, swiftNext]).resolve "sW" = .ok (swiftNext.primary, Target.swift) ∧
    (ofHistory [kotlinFirst, swiftNext]).resolveName swiftNext.primary = .ok "swift" := by
  have admitted : (ofHistory [kotlinFirst]).Admits swiftNext :=
    .inr ⟨by decide +kernel, by decide +kernel⟩
  have resolved := (ofHistory_coherent [kotlinFirst]).2 swiftNext Target.swift rfl admitted "sW"
    (.inr ⟨by decide +kernel, by decide +kernel⟩)
  have settled := (ofHistory_coherent [kotlinFirst, swiftNext]).1.settled "sW" "swift"
    (by decide +kernel)
  have primary : swiftNext.primary = "swift" := by decide +kernel
  exact ⟨admitted, resolved, primary ▸ settled⟩

/-! ### What a registration leaves as it was -/

/-- Whether a registration gives its target a name that has been an alias: the language is spelled like
the alias, and none of its own aliases is refused. -/
structure TakesOver (c : Catalog) (r : Registration) (language : String) (target : Target) : Prop where
  offered : r.candidate = some target
  spelled : key language = r.primary
  unregistered : c.targets.lookup r.primary = none
  free : ∀ synonym ∈ r.synonyms, c.conflict? r.primary synonym = none

theorem TakesOver.resolve_enter {other : Target} (taken : c.TakesOver r language other) :
    (c.enter r).resolve language = .ok (key language, other) := by
  rw [enter_of_admits taken.offered (.inr ⟨taken.unregistered, taken.free⟩),
    resolve_put other (.inl taken.spelled), taken.spelled]

/-- What is found stays what it is, unless its name is taken over. -/
theorem resolve_enter (kept : r.replace = false)
    (found : c.resolve language = .ok (name, target))
    (free : ∀ other, ¬ c.TakesOver r language other) :
    (c.enter r).resolve language = .ok (name, target) := by
  rcases enter_cases c r with same | ⟨other, offered, admitted, done⟩
  · rw [same, found]
  · obtain ⟨new, fine⟩ := admitted.of_kept kept
    have apart : key language ≠ r.primary := fun spelled => free other ⟨offered, spelled, new, fine⟩
    obtain ⟨primary, registered⟩ := resolve_ok_iff.mp found
    have differs : name ≠ r.primary := by
      rintro rfl
      cases new.symm.trans registered
    have registeredToo : (c.put r other).targets.lookup name = some target := by
      rw [lookup_targets_put, if_neg differs, registered]
    rw [done, resolve_ok_iff]
    refine ⟨?_, registeredToo⟩
    cases own : c.targets.lookup (key language) with
    | some held =>
      cases (primary?_of_name own).symm.trans primary
      exact primary?_of_name registeredToo
    | none =>
      rw [primary?_of_alias own] at primary
      rw [primary?_of_alias (by rw [lookup_targets_put, if_neg apart, own]), lookup_aliases_put]
      -- An alias of the registration that stands for another language would have been refused.
      have unlisted : key language ∉ r.synonyms := by
        intro listed
        have open? := fine _ listed
        simp only [conflict?, own, Option.isSome_none, Bool.false_eq_true, if_false, primary,
          if_neg differs, reduceCtorEq] at open?
      rw [if_neg unlisted, primary]

/-- A registration that replaces nothing leaves what is found as it was, unless it takes an alias over as
a name; then the name is what is found. So of the aliases that a language has, those stand for it that
are not the names of languages. -/
theorem registration_keeps (history : List Registration) (r : Registration) (kept : r.replace = false) :
    (∀ language name target, (ofHistory history).resolve language = .ok (name, target) →
      (((ofHistory history).enter r).resolve language = .ok (name, target) ↔
        ∀ other, ¬ (ofHistory history).TakesOver r language other) ∧
      ∀ other, (ofHistory history).TakesOver r language other →
        ((ofHistory history).enter r).resolve language = .ok (key language, other)) ∧
    ∀ language, ∀ synonym ∈ (ofHistory history).aliasesOf language,
      (ofHistory history).resolveName synonym = .ok (key language) ↔
        synonym ∉ (ofHistory history).languages := by
  have sound := sound_ofHistory history
  generalize ofHistory history = c at sound
  refine ⟨?_, ?_⟩
  · intro language name target found
    refine ⟨⟨?_, resolve_enter kept found⟩, fun other taken => taken.resolve_enter⟩
    intro stays other taken
    cases stays.symm.trans taken.resolve_enter
    have registered := (resolve_ok_iff.mp found).2
    rw [taken.spelled] at registered
    cases taken.unregistered.symm.trans registered
  · intro language synonym listed
    have stands := (lookup_iff_mem sound.distinct).mpr (mem_aliasesOf_iff.mp listed)
    obtain ⟨spelled, other, -⟩ := sound.aliased _ _ stands
    rw [resolveName_ok_iff, mem_languages_iff]
    constructor
    · rintro primary ⟨target, registered⟩
      rw [← spelled] at registered
      have same := Option.some.inj ((primary?_of_name registered).symm.trans primary)
      exact other (spelled.symm.trans same)
    · intro unregistered
      have absent : c.targets.lookup (key synonym) = none := by
        rw [spelled]
        exact Option.eq_none_iff_forall_ne_some.mpr (not_exists.mp unregistered)
      rw [primary?_of_alias absent, spelled, stands]

/-- Swift under the name of that alias. -/
def swiftAsAlias : Registration := ⟨"kt", some Target.swift, [], false⟩

theorem takesOver_swiftAsAlias :
    (ofHistory [kotlinFirst]).TakesOver swiftAsAlias "kt" Target.swift where
  offered := rfl
  spelled := rfl
  unregistered := by decide +kernel
  free := by decide +kernel

theorem resolve_kotlinFirst (spelling : String)
    (named : (ofHistory [kotlinFirst]).resolveName spelling = .ok "kotlin") :
    ∃ target, (ofHistory [kotlinFirst]).resolve spelling = .ok ("kotlin", target) := by
  have primary := resolveName_ok_iff.mp named
  obtain ⟨target, registered⟩ := (sound_ofHistory [kotlinFirst]).registered primary
  exact ⟨target, resolve_ok_iff.mpr ⟨primary, registered⟩⟩

/-- Kotlin stays what it is, and its alias does not. -/
theorem registration_keeps_kotlin : swiftAsAlias.replace = false ∧
    (∃ target, (ofHistory [kotlinFirst]).resolve "kotlin" = .ok ("kotlin", target) ∧
      ((ofHistory [kotlinFirst]).enter swiftAsAlias).resolve "kotlin" = .ok ("kotlin", target)) ∧
    ∃ target, (ofHistory [kotlinFirst]).resolve "kt" = .ok ("kotlin", target) ∧
      ((ofHistory [kotlinFirst]).enter swiftAsAlias).resolve "kt" = .ok (key "kt", Target.swift) := by
  obtain ⟨stays, -⟩ := registration_keeps [kotlinFirst] swiftAsAlias rfl
  obtain ⟨target, own⟩ := resolve_kotlinFirst "kotlin" (by decide +kernel)
  obtain ⟨same, aliased⟩ := resolve_kotlinFirst "kt" (by decide +kernel)
  have apart : key "kotlin" ≠ swiftAsAlias.primary := by decide +kernel
  refine ⟨rfl, ⟨target, own, ?_⟩, same, aliased, ?_⟩
  · exact (stays "kotlin" _ _ own).1.mpr fun _ taken => apart taken.spelled
  · exact (stays "kt" _ _ aliased).2 _ takesOver_swiftAsAlias

/-- An alias is lost to a language that is registered under it, and still listed. -/
theorem alias_taken_over :
    (¬ ∀ history r, r.replace = false → ∀ language name target,
      (ofHistory history).resolve language = .ok (name, target) →
        ((ofHistory history).enter r).resolve language = .ok (name, target)) ∧
    ¬ ∀ history, (∀ r ∈ history, r.replace = false) →
      ∀ language, ∀ synonym ∈ (ofHistory history).aliasesOf language,
        (ofHistory history).resolveName synonym = .ok (key language) := by
  have after : (ofHistory [kotlinFirst, swiftAsAlias]).resolveName "kt" = .ok "kt" := by
    decide +kernel
  constructor
  · intro stable
    obtain ⟨target, aliased⟩ := resolve_kotlinFirst "kt" (by decide +kernel)
    have stays := stable [kotlinFirst] swiftAsAlias rfl "kt" _ _ aliased
    have named := resolveName_ok_iff.mpr (resolve_ok_iff.mp stays).1
    exact absurd (Except.ok.inj (after.symm.trans named)) (by decide)
  · intro stand
    have listed : "kt" ∈ (ofHistory [kotlinFirst, swiftAsAlias]).aliasesOf "kotlin" := by
      decide +kernel
    have named := stand _ (by decide +kernel) "kotlin" "kt" listed
    have apart : key "kotlin" ≠ "kt" := by decide +kernel
    exact apart (Except.ok.inj (named.symm.trans after))

end Catalog

end RpcBindings
