import RpcBindings.Proofs.Catalog

/-! Registrations in place, one step after the other, which an error can end at any of them. They come to
what registrations come to in one step, so that one that is refused leaves nothing behind: all that can
be refused is looked at before the first table is changed. -/
namespace RpcBindings

namespace Catalog

variable {c : Catalog} {name : String} {target : Target} {r : Registration}

/-! ### The steps of a registration -/

namespace Change

theorem run_checkAlias (c : Catalog) (language synonym : String) :
    (checkAlias language synonym).run c =
      match c.conflict? language synonym with
      | some cause => .error cause c
      | none => .ok () c := by
  rw [checkAlias, EStateM.run_bind, EStateM.run_get]
  dsimp only
  cases c.conflict? language synonym <;> rfl

/-- Checking changes nothing, and ends in the first refusal. -/
theorem run_checkAliases (c : Catalog) (language : String) (synonyms : List String) :
    (forM synonyms (checkAlias language)).run c =
      match synonyms.findSome? (c.conflict? language) with
      | some cause => .error cause c
      | none => .ok () c := by
  induction synonyms with
  | nil => rfl
  | cons synonym rest ih =>
    rw [List.forM_cons, EStateM.run_bind, run_checkAlias, List.findSome?_cons]
    cases c.conflict? language synonym with
    | some cause => rfl
    | none => exact ih

theorem run_setTarget (c : Catalog) (name : String) (target : Target) :
    (setTarget name target).run c = .ok () { c with targets := putEntry name target c.targets } :=
  rfl

/-- Aliases are set one after the other. -/
theorem run_setAliases (c : Catalog) (language : String) (synonyms : List String) :
    (forM synonyms (setAlias language)).run c = .ok () { c with
      aliases := putEntries c.aliases (synonyms.map fun synonym => (synonym, language)) } := by
  induction synonyms generalizing c with
  | nil => rfl
  | cons synonym rest ih =>
    rw [List.forM_cons, EStateM.run_bind, setAlias, EStateM.run_modify]
    exact ih _

/-- A registration in place comes to what a registration comes to, and leaves the catalog as it was if
that is an error. -/
theorem run_register (c : Catalog) (language : String) (candidate : Option Target)
    (aliases : List String) (replace : Bool) :
    (register language candidate aliases replace).run c =
      match c.register language candidate aliases replace with
      | .ok next => .ok () next
      | .error cause => .error cause c := by
  unfold register Catalog.register
  cases candidate with
  | none => rfl
  | some target =>
    dsimp only
    rw [EStateM.run_bind, EStateM.run_get]
    dsimp only
    split
    case isTrue => rfl
    case isFalse =>
      generalize (aliases.map key).filter (· ≠ key language) = keys
      simp only [List.forM_eq_forM]
      have change : (do setTarget (key language) target; forM keys (setAlias (key language)) :
          Change).run c = .ok () {
            targets := putEntry (key language) target c.targets
            aliases := putEntries c.aliases (keys.map fun synonym => (synonym, key language)) } := by
        rw [EStateM.run_bind, run_setTarget]
        exact run_setAliases _ _ keys
      cases replace with
      | true => exact change
      | false =>
        simp only [Bool.false_eq_true, if_false]
        rw [EStateM.run_bind, run_checkAliases]
        cases keys.findSome? (c.conflict? (key language)) with
        | some cause => rfl
        | none => exact change

end Change

/-! ### Why a registration is refused -/

/-- Why an alias cannot stand for a language: it is the name of one, or stands for another. -/
inductive Conflicts (c : Catalog) (name synonym : String) : CatalogError → Prop
  | primary : synonym ∈ c.languages → Conflicts c name synonym (.aliasOfPrimary synonym)
  | taken {other} : synonym ∉ c.languages → c.aliases.lookup synonym = some other → other ≠ name →
      Conflicts c name synonym (.aliasTaken synonym other)

/-- Why a registration is refused: there is no target, or an alias cannot stand for the language, which
is new. The first such alias counts, wherever it is among the others. -/
inductive Refuses (c : Catalog) (r : Registration) : CatalogError → Prop
  | unfit : r.candidate = none → Refuses c r .notTarget
  | conflict {before synonym later cause} : r.candidate ≠ none → r.replace = false →
      r.primary ∉ c.languages → r.synonyms = before ++ synonym :: later →
      (∀ earlier ∈ before, ∀ e, ¬ c.Conflicts r.primary earlier e) →
      c.Conflicts r.primary synonym cause → Refuses c r cause

theorem isSome_targets_iff : (c.targets.lookup name).isSome = true ↔ name ∈ c.languages := by
  rw [mem_languages_iff, Option.isSome_iff_exists]

theorem conflict?_eq_some_iff {synonym : String} {cause : CatalogError} :
    c.conflict? name synonym = some cause ↔ c.Conflicts name synonym cause := by
  unfold conflict?
  split
  case isTrue known =>
    rw [isSome_targets_iff] at known
    constructor
    · rintro ⟨⟩
      exact .primary known
    · intro conflicts
      cases conflicts with
      | primary => rfl
      | taken unknown => exact absurd known unknown
  case isFalse unknown =>
    rw [isSome_targets_iff] at unknown
    constructor
    · intro refused
      split at refused
      case h_1 other stands =>
        split at refused
        case isTrue => cases refused
        case isFalse differs =>
          cases refused
          exact .taken unknown stands differs
      case h_2 => cases refused
    · intro conflicts
      cases conflicts with
      | primary known => exact absurd known unknown
      | taken _ stands differs => simp [stands, differs]

theorem findSome?_conflict? {synonyms : List String} {cause : CatalogError} :
    synonyms.findSome? (c.conflict? name) = some cause ↔
      ∃ before synonym later, synonyms = before ++ synonym :: later ∧
        (∀ earlier ∈ before, ∀ e, ¬ c.Conflicts name earlier e) ∧ c.Conflicts name synonym cause := by
  simp only [List.findSome?_eq_some_iff, Option.eq_none_iff_forall_ne_some, ne_eq,
    conflict?_eq_some_iff, and_comm]

/-- What becomes of a registration that there is a target for. -/
theorem register_eq (offered : r.candidate = some target) :
    c.register r.language r.candidate r.aliases r.replace =
      if (c.targets.lookup r.primary).isSome && !r.replace then .ok c
      else match if r.replace then none else r.synonyms.findSome? (c.conflict? r.primary) with
        | some cause => .error cause
        | none => .ok (c.put r target) := by
  rw [offered]
  rfl

theorem refuses_iff (offered : r.candidate ≠ none) {cause : CatalogError} : c.Refuses r cause ↔
    r.replace = false ∧ r.primary ∉ c.languages ∧
      r.synonyms.findSome? (c.conflict? r.primary) = some cause := by
  rw [findSome?_conflict?]
  constructor
  · intro refuses
    cases refuses with
    | unfit absent => exact absurd absent offered
    | conflict _ kept unknown split fine conflicts =>
      exact ⟨kept, unknown, _, _, _, split, fine, conflicts⟩
  · rintro ⟨kept, unknown, before, synonym, later, split, fine, conflicts⟩
    exact .conflict offered kept unknown split fine conflicts

theorem register_error_iff {cause : CatalogError} :
    c.register r.language r.candidate r.aliases r.replace = .error cause ↔ c.Refuses r cause := by
  cases offered : r.candidate with
  | none =>
    constructor
    · rintro ⟨⟩
      exact .unfit offered
    · intro refuses
      cases refuses with
      | unfit => rfl
      | conflict there => exact absurd offered there
  | some target =>
    rw [← offered, register_eq offered, refuses_iff (by simp [offered]), ← isSome_targets_iff]
    cases r.replace <;> cases (c.targets.lookup r.primary).isSome <;>
      cases r.synonyms.findSome? (c.conflict? r.primary) <;> simp

/-! ### Registrations in place -/

/-- The registration as it is made in place. -/
def Registration.inPlace (r : Registration) : Change :=
  Change.register r.language r.candidate r.aliases r.replace

/-- The catalog that a change leaves behind, be it done or ended by an error. -/
def Change.leaves (change : Change) (c : Catalog) : Catalog :=
  match change.run c with
  | .ok _ after => after
  | .error _ after => after

/-- The catalog that registrations in place leave behind, starting from an empty one. -/
def leftBy (history : List Registration) : Catalog := history.foldl (fun c r => r.inPlace.leaves c) {}

theorem Registration.run_inPlace (c : Catalog) (r : Registration) : r.inPlace.run c =
    match c.register r.language r.candidate r.aliases r.replace with
    | .ok next => .ok () next
    | .error cause => .error cause c :=
  Change.run_register ..

theorem Registration.leaves_inPlace (c : Catalog) (r : Registration) :
    r.inPlace.leaves c = c.enter r := by
  rw [Change.leaves, run_inPlace, enter]
  cases c.register r.language r.candidate r.aliases r.replace <;> rfl

/-- Registrations in place leave behind the catalog that registrations make. -/
theorem leftBy_eq_ofHistory (history : List Registration) : leftBy history = ofHistory history := by
  simp only [leftBy, Registration.leaves_inPlace]
  rfl

theorem Registration.run_inPlace_error_iff {cause : CatalogError} {after : Catalog} :
    r.inPlace.run c = .error cause after ↔ after = c ∧ c.Refuses r cause := by
  rw [run_inPlace, ← register_error_iff]
  cases c.register r.language r.candidate r.aliases r.replace <;> simp [eq_comm, and_comm]

/-- A language that is there is not registered again. -/
theorem Registration.run_inPlace_known (offered : r.candidate ≠ none) (kept : r.replace = false)
    (known : r.primary ∈ c.languages) : r.inPlace.run c = .ok () c := by
  obtain ⟨target, offered⟩ := Option.ne_none_iff_exists'.mp offered
  rw [run_inPlace, register_eq offered, if_pos (by simp [kept, isSome_targets_iff.mpr known])]

theorem Registration.leaves_inPlace_refused {cause : CatalogError} (refuses : c.Refuses r cause) :
    r.inPlace.leaves c = c := by
  rw [Change.leaves, run_inPlace_error_iff.mpr ⟨rfl, refuses⟩]

theorem Registration.leaves_inPlace_known (kept : r.replace = false) (known : r.primary ∈ c.languages) :
    r.inPlace.leaves c = c := by
  by_cases offered : r.candidate = none
  · exact leaves_inPlace_refused (.unfit offered)
  · rw [Change.leaves, run_inPlace_known offered kept known]

theorem leftBy_append_cons (history : List Registration) (r : Registration) (later : List Registration) :
    leftBy (history ++ r :: later) =
      later.foldl (fun c r => r.inPlace.leaves c) (r.inPlace.leaves (leftBy history)) := by
  rw [leftBy, List.foldl_append]
  rfl

/-- A registration that is refused leaves the catalog as it was, whatever the reason and wherever among
the aliases it lies. So does one of a language that is there and not to be replaced, in whatever case it
is written and whatever its aliases are. What is registered later is as if it had never been tried. -/
theorem refused_leaves (r : Registration) :
    (∀ (c : Catalog) cause after, r.inPlace.run c = .error cause after ↔
      (after.targets = c.targets ∧ after.aliases = c.aliases) ∧ c.Refuses r cause) ∧
    (∀ c : Catalog, r.replace = false → key r.language ∈ c.languages →
      r.inPlace.leaves c = c ∧ (r.candidate ≠ none → r.inPlace.run c = .ok () c)) ∧
    ∀ history later, ((∃ cause, (leftBy history).Refuses r cause) ∨
        r.replace = false ∧ key r.language ∈ (leftBy history).languages) →
      leftBy (history ++ r :: later) = leftBy (history ++ later) := by
  refine ⟨fun c cause after => ?_, fun c kept known => ?_, fun history later idle => ?_⟩
  · rw [Registration.run_inPlace_error_iff, Catalog.mk.injEq]
  · exact ⟨Registration.leaves_inPlace_known kept known,
      fun offered => Registration.run_inPlace_known offered kept known⟩
  · have same : r.inPlace.leaves (leftBy history) = leftBy history := by
      rcases idle with ⟨cause, refuses⟩ | ⟨kept, known⟩
      · exact Registration.leaves_inPlace_refused refuses
      · exact Registration.leaves_inPlace_known kept known
    rw [leftBy_append_cons, same, leftBy, ← List.foldl_append]
    rfl

/-- Dart with an alias that is free, and with one that is taken. -/
def dartNext : Registration := ⟨"Dart", some Target.dart, ["dart", "flutter", "KT", "dt"], false⟩

theorem refused_leaves_dart : (leftBy [kotlinFirst]).Refuses dartNext (.aliasTaken "kt" "kotlin") ∧
    dartNext.inPlace.run (leftBy [kotlinFirst]) =
      .error (.aliasTaken "kt" "kotlin") (leftBy [kotlinFirst]) ∧
    leftBy [kotlinFirst, dartNext, swiftNext] = leftBy [kotlinFirst, swiftNext] := by
  have refuses : (leftBy [kotlinFirst]).Refuses dartNext (.aliasTaken "kt" "kotlin") :=
    (refuses_iff (by decide)).mpr ⟨rfl, by decide +kernel, by decide +kernel⟩
  obtain ⟨refused, -, idle⟩ := refused_leaves dartNext
  exact ⟨refuses, (refused _ _ _).mpr ⟨⟨rfl, rfl⟩, refuses⟩,
    idle [kotlinFirst] [swiftNext] (.inl ⟨_, refuses⟩)⟩

end Catalog

end RpcBindings
