import RpcBindings.Proofs.Options
import RpcBindings.Text.Split

/-! Which settings are refused. Three of them are checked, one after the other, and the first value that
is not legal makes the error, which names its setting. Only the value that counts is checked: what is
overridden may be anything. -/
namespace RpcBindings

open Outcome

namespace Options

/-! ### Legal values -/

/-- Whether a value chooses a granularity, or leaves the choice to the language. -/
def IsGranularity (v : Value) : Prop :=
  v = .null ∨ Text.onString Text.lower v.display ∈ ["per_file", "per_service"]

/-- Whether a value switches something on or off. -/
def IsSwitch (v : Value) : Prop :=
  (∃ b, v = .bool b) ∨ Text.onString (Text.lower ∘ Text.trim) v.display ∈
    ["1", "true", "yes", "on", "", "0", "false", "no", "off"]

/-- What is checked of a setting, and the error that an illegal value makes. -/
structure Check where
  key : String
  legal : Value → Prop
  refusal : Value → OptionError

def granularityCheck : Check := ⟨"granularity", IsGranularity, .invalidGranularity⟩

def switchCheck (key : String) : Check := ⟨key, IsSwitch, .invalidBoolean key⟩

/-- The checks in their order. -/
def checks : List Check := granularityCheck :: flagKeys.map switchCheck

variable {value? : Text.CodePoints → Option Value}

/-- Whether the value that a setting is given, if it is given one, is legal. -/
def Check.Passes (check : Check) (value? : Text.CodePoints → Option Value) : Prop :=
  ∀ v, value? check.key = some v → check.legal v

/-- The error of a check for the value that a setting is given, if that is illegal. -/
def Check.Refuses (check : Check) (value? : Text.CodePoints → Option Value) (e : OptionError) : Prop :=
  ∃ v, value? check.key = some v ∧ ¬ check.legal v ∧ e = check.refusal v

/-- Whether an error is that of a row of checks: the error of the first one that is not passed. -/
inductive Refused (value? : Text.CodePoints → Option Value) : List Check → OptionError → Prop
  | here {check rest e} : check.Refuses value? e → Refused value? (check :: rest) e
  | later {check rest e} : check.Passes value? → Refused value? rest e →
      Refused value? (check :: rest) e

variable {check : Check} {row : List Check} {e : OptionError}

/-- Every error names the setting that it is about, and shows its value. -/
theorem Check.message_refusal (listed : check ∈ checks) (v : Value) :
    ∃ words, (check.refusal v).message = words ++ check.key ++ ": " ++ v.literal := by
  rcases List.mem_cons.mp listed with rfl | switch
  · exact ⟨"Invalid ", rfl⟩
  · obtain ⟨key, -, rfl⟩ := List.mem_map.mp switch
    exact ⟨"Invalid boolean for ", rfl⟩

theorem Check.breakdown?_refusal (listed : check ∈ checks) (v : Value) :
    (check.refusal v).breakdown? = none := by
  rcases List.mem_cons.mp listed with rfl | switch
  · rfl
  · obtain ⟨key, -, rfl⟩ := List.mem_map.mp switch
    rfl

/-- The errors of different checks are different. -/
theorem Check.eq_of_refusal {other : Check} (listed : check ∈ checks) (known : other ∈ checks)
    {v w : Value} (same : check.refusal v = other.refusal w) : check = other := by
  rcases List.mem_cons.mp listed with rfl | switch <;>
    rcases List.mem_cons.mp known with rfl | switchToo
  · rfl
  · obtain ⟨key, -, rfl⟩ := List.mem_map.mp switchToo
    cases same
  · obtain ⟨key, -, rfl⟩ := List.mem_map.mp switch
    cases same
  · obtain ⟨key, -, rfl⟩ := List.mem_map.mp switch
    obtain ⟨other, -, rfl⟩ := List.mem_map.mp switchToo
    cases same
    rfl

theorem Refused.origin (refused : Refused value? row e) : ∃ check ∈ row, check.Refuses value? e := by
  induction refused with
  | @here check _ _ refuses => exact ⟨check, List.mem_cons_self, refuses⟩
  | later _ _ ih =>
    obtain ⟨check, listed, refuses⟩ := ih
    exact ⟨check, List.mem_cons_of_mem _ listed, refuses⟩

theorem Check.passes_iff : check.Passes value? ↔ ∀ e, ¬ check.Refuses value? e := by
  constructor
  · rintro passes e ⟨v, set, illegal, -⟩
    exact illegal (passes v set)
  · intro never v set
    by_contra illegal
    exact never _ ⟨v, set, illegal, rfl⟩

/-- There is an error as soon as some check is not passed. -/
theorem exists_refused_iff :
    (∃ e, Refused value? row e) ↔ ∃ check ∈ row, ¬ check.Passes value? := by
  induction row with
  | nil => exact ⟨nofun, nofun⟩
  | cons check rest ih =>
    rw [List.exists_mem_cons_iff]
    by_cases passes : check.Passes value?
    · rw [← ih]
      constructor
      · rintro ⟨e, refused⟩
        cases refused with
        | here refuses => exact absurd refuses (Check.passes_iff.mp passes e)
        | later _ refused => exact .inr ⟨e, refused⟩
      · rintro (fails | ⟨e, refused⟩)
        · exact absurd passes fails
        · exact ⟨e, .later passes refused⟩
    · have fails : ∃ e, check.Refuses value? e := by
        rwa [Check.passes_iff, not_forall_not] at passes
      obtain ⟨e, refuses⟩ := fails
      exact ⟨fun _ => .inl passes, fun _ => ⟨e, .here refuses⟩⟩

/-! ### Checks of what is read -/

theorem ofName?_eq_none_iff {name : String} :
    Granularity.ofName? name = none ↔ name ∉ ["per_file", "per_service"] := by
  have names : ["per_file", "per_service"] = [Granularity.perFile, .perService].map (·.name) := rfl
  rw [Granularity.ofName?, List.find?_eq_none, names, List.mem_map]
  simp only [beq_iff_eq, not_exists, not_and]

theorem isSwitch_iff {v : Value} : IsSwitch v ↔ ∃ b, boolOf? v = some b := by
  have words : ["1", "true", "yes", "on", "", "0", "false", "no", "off"] =
      ["1", "true", "yes", "on", ""] ++ ["0", "false", "no", "off"] := rfl
  have listed (row : List String) : Text.onString (Text.lower ∘ Text.trim) v.display ∈ row ↔
      Text.lower (Text.trim v.display.toList) ∈ row.map String.toList := by
    have shown := Text.toList_onString (Text.lower ∘ Text.trim) v.display
    rw [Function.comp_apply] at shown
    rw [← shown, List.mem_map_of_injective fun _ _ => String.toList_inj.mp]
  rw [IsSwitch, words, List.mem_append, listed, listed]
  by_cases truth : ∃ b, v = .bool b
  · obtain ⟨b, rfl⟩ := truth
    exact iff_of_true (.inl ⟨b, rfl⟩) ⟨b, rfl⟩
  · have other := not_exists.mp truth
    constructor
    · rintro (same | yes | no)
      · exact absurd same truth
      · exact ⟨true, boolOf?_eq_some_iff.mpr (.inr ⟨other, yes⟩)⟩
      · exact ⟨false, boolOf?_eq_some_iff.mpr (.inr ⟨other, no⟩)⟩
    · rintro ⟨b, said⟩
      rcases boolOf?_eq_some_iff.mp said with same | ⟨-, word⟩
      · exact absurd same (other b)
      · cases b
        case false => exact .inr (.inr word)
        case true => exact .inr (.inl word)

theorem boolOf?_eq_none_iff {v : Value} : boolOf? v = none ↔ ¬ IsSwitch v := by
  rw [isSwitch_iff, not_exists, Option.eq_none_iff_forall_ne_some]

variable {settings : Settings} {α β : Type}

/-- Whether a check stands for what can go wrong when a part of some settings is read. -/
def Check.Guards (check : Check) (settings : Settings) (part : Except OptionError α) : Prop :=
  ∀ e, part = .error e ↔ check.Refuses (fun key => settings.lookup key) e

theorem guards_granularity : granularityCheck.Guards settings (granularityOf settings) := by
  intro e
  simp only [Check.Refuses, granularityCheck, IsGranularity, granularityOf]
  cases settings.lookup (.string "granularity") with
  | none => simp
  | some v =>
    cases v
    case null => simp
    all_goals
      simp only [Option.getD_some, Option.some.injEq, exists_eq_left', reduceCtorEq, false_or]
      rw [← ofName?_eq_none_iff]
      cases Granularity.ofName? _ <;> simp [eq_comm]

theorem guards_flag (key : String) : (switchCheck key).Guards settings (flag settings key) := by
  intro e
  simp only [Check.Refuses, switchCheck, flag, ← boolOf?_eq_none_iff]
  cases settings.lookup (.string key) with
  | none => simp
  | some v => cases word : boolOf? v <;> simp [word, eq_comm]

/-- Reading goes on to the next part if a check is passed. -/
theorem Check.Guards.bind_error_iff {first : Except OptionError α} (guards : check.Guards settings first)
    {next : α → Except OptionError β}
    (later : ∀ a e, next a = .error e ↔ Refused (fun key => settings.lookup key) row e) :
    (first >>= next) = .error e ↔ Refused (fun key => settings.lookup key) (check :: row) e := by
  rw [Outcome.bind_error_iff, guards e]
  constructor
  · rintro (refuses | ⟨a, read, failed⟩)
    · exact .here refuses
    · refine .later (Check.passes_iff.mpr fun e refuses => ?_) ((later a e).mp failed)
      cases read.symm.trans ((guards e).mpr refuses)
  · intro refused
    cases refused with
    | here refuses => exact .inl refuses
    | later passes refused =>
      obtain ⟨a, read⟩ := ok_of_not_error fun e failed =>
        Check.passes_iff.mp passes e ((guards e).mp failed)
      exact .inr ⟨a, read, (later a e).mpr refused⟩

theorem ofSettings_error_iff {language : String} :
    ofSettings language settings = .error e ↔ Refused (fun key => settings.lookup key) checks e := by
  refine guards_granularity.bind_error_iff fun granularity e => ?_
  refine (guards_flag "bundle_runtime").bind_error_iff fun bundled e => ?_
  refine (guards_flag "add_comments").bind_error_iff fun comments e => ?_
  exact ⟨nofun, nofun⟩

/-! ### Settings that are refused -/

theorem load_error_iff {overrides : Settings} {file : Option SettingsFile} {language : String}
    (read : fileSettings file = .ok settings) : (load language overrides file).2 = .error e ↔
      Refused (fun key => (putEntries settings overrides).lookup key) checks e := by
  rw [load_eq read, ofSettings_error_iff]

/-- Settings are refused if and only if a granularity is not one or a switch is neither on nor off. The
error is that of the first such setting, in the order of the checks, and names it. A value in a file
that a legal one overrides does not matter. -/
theorem settings_refused (language : String) :
    (∀ settings,
      ((∃ e, ofSettings language settings = .error e) ↔
        (∃ v, settings.lookup (.string "granularity") = some v ∧ ¬ IsGranularity v) ∨
          ∃ key ∈ ["bundle_runtime", "add_comments"], ∃ v,
            settings.lookup (.string key) = some v ∧ ¬ IsSwitch v) ∧
      ∀ e, (ofSettings language settings = .error e ↔
          Refused (fun key => settings.lookup key) checks e) ∧
        (Refused (fun key => settings.lookup key) checks e → e.breakdown? = none ∧
          ∃ check ∈ checks, ∃ v words, settings.lookup (.string check.key) = some v ∧
            e.message = words ++ check.key ++ ": " ++ v.literal)) ∧
    ∀ overrides settings file, (overrides.map (·.1)).Nodup → fileSettings file = .ok settings →
      ∀ check ∈ checks, ∀ v, overrides.lookup (.string check.key) = some v → check.legal v →
        (∀ w, (load language overrides file).2 ≠ .error (check.refusal w)) ∧
        ∀ file' settings', fileSettings file' = .ok settings' →
          (∀ key, key ≠ .string check.key → settings'.lookup key = settings.lookup key) →
          (load language overrides file').2 = (load language overrides file).2 := by
  constructor
  · intro settings
    constructor
    · simp only [ofSettings_error_iff, exists_refused_iff, checks, List.exists_mem_cons_iff, flagKeys,
        List.map_cons, List.map_nil, Check.Passes, not_forall, exists_prop, granularityCheck, switchCheck,
        List.not_mem_nil, false_and, exists_false]
    · intro e
      refine ⟨ofSettings_error_iff, fun refused => ?_⟩
      obtain ⟨check, listed, v, set, -, rfl⟩ := refused.origin
      obtain ⟨words, shown⟩ := Check.message_refusal listed v
      exact ⟨Check.breakdown?_refusal listed v, check, listed, v, words, set, shown⟩
  · intro overrides settings file distinct read check listed v overridden legal
    have counts {settings : Settings} :
        (putEntries settings overrides).lookup (.string check.key) = some v := by
      rw [lookup_putEntries_of_nodup distinct, overridden, Option.some_or]
    constructor
    · intro w failed
      obtain ⟨other, known, v', set, illegal, same⟩ := ((load_error_iff read).mp failed).origin
      cases Check.eq_of_refusal listed known same
      cases counts.symm.trans set
      exact illegal legal
    · intro file' settings' readToo agree
      rw [load_eq read, load_eq readToo]
      refine ofSettings_congr (fun key _ => ?_) _
      by_cases own : key = .string check.key
      · rw [own, counts, counts]
      · rw [lookup_putEntries_of_nodup distinct, lookup_putEntries_of_nodup distinct, agree key own]

/-- A file with two switches that are neither on nor off. -/
def doubtful : SettingsFile :=
  ⟨Path.ofString "c.json", .ok "\x7b\"bundle_runtime\": \"maybe\", \"add_comments\": []\x7d".toUTF8⟩

/-- An override of one of them. -/
def switchedOff : Settings := [("bundle_runtime", .text " NO ")]

theorem settings_refused_doubtful : ∃ settings e, fileSettings (some doubtful) = .ok settings ∧
    (∃ v, settings.lookup (.string "bundle_runtime") = some v ∧ ¬ IsSwitch v) ∧
    (load "kotlin" switchedOff (some doubtful)).2 = .error e ∧
    ∀ w, e ≠ .invalidBoolean "bundle_runtime" w := by
  have read : ∃ settings ∈ (fileSettings (some doubtful)).toOption,
      ∃ v ∈ settings.lookup (.string "bundle_runtime"), boolOf? v = none := by decide +kernel
  obtain ⟨settings, read, v, set, illegal⟩ := ok_of_toOption read
  have off : boolOf? (.text " NO ") = some false := by decide +kernel
  have legal : IsSwitch (.text " NO ") := by
    by_contra neither
    cases off.symm.trans (boolOf?_eq_none_iff.mpr neither)
  have fails : (load "kotlin" switchedOff (some doubtful)).2.isOk = false := by decide +kernel
  rcases ok_or_error (load "kotlin" switchedOff (some doubtful)).2 with ⟨o, loaded⟩ | ⟨e, failed⟩
  · rw [loaded] at fails
    cases fails
  obtain ⟨-, overrides⟩ := settings_refused "kotlin"
  have spared := overrides switchedOff settings (some doubtful) (by decide) read
    (switchCheck "bundle_runtime") (by simp [checks, flagKeys]) (.text " NO ") rfl legal
  refine ⟨settings, e, read, ⟨v, set, boolOf?_eq_none_iff.mp illegal⟩, failed, fun w same => ?_⟩
  exact spared.1 w (failed.trans (congrArg _ same))

end Options

end RpcBindings
