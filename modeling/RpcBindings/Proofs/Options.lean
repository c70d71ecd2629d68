import RpcBindings.Options
import RpcBindings.Proofs.Entries
import RpcBindings.Proofs.Json

/-! What the options of a run come from. Each is what its setting says in the overrides, else in the
file, else what it is by default, which what is set for a language beforehand does not change;
settings that no option is read from have no part in it, whether options come about or an error does,
and are only warned of. -/
namespace RpcBindings

open Outcome

namespace Options

/-! ### Settings that are put together -/

/-- The settings of a file, if there is one. -/
def fileSettings : Option SettingsFile → Except OptionError Settings
  | none => .ok []
  | some file => readFile file.path file.sight

theorem nodup_fileSettings {file : Option SettingsFile} {settings : Settings}
    (read : fileSettings file = .ok settings) : (settings.map (·.1)).Nodup := by
  cases file with
  | none =>
    cases read
    exact List.nodup_nil
  | some file =>
    obtain ⟨bytes, read⟩ : ∃ bytes, readBytes file.path bytes = .ok settings := by
      simp only [fileSettings, readFile] at read
      repeat' split at read
      all_goals first
        | exact ⟨_, read⟩
        | cases read
    obtain ⟨text, -, read⟩ := bind_ok_iff.mp read
    split at read
    case h_1 members found =>
      cases read
      exact Json.nodup_read found
    all_goals cases read

/-- The value that a setting is given: by the overrides, else by the file. -/
def given (overrides settings : Settings) (key : Text.CodePoints) : Option Value :=
  (overrides.lookup key).or (settings.lookup key)

/-- The warnings follow the names of the settings. -/
theorem warningsOf_names (settings : Settings) :
    warningsOf settings = ((settings.map (·.1)).filter (· ∉ keys)).map unknownKey := by
  simp [warningsOf, List.filter_map, Function.comp_def]

/-! ### Options that are read from settings -/

/-- The granularity that a value asks for, if it is one; null leaves the choice to the language. -/
def granularity? : Value → Option (Option Granularity)
  | .null => some none
  | v => (Granularity.ofName? (Text.onString Text.lower v.display)).map some

/-- A value in which the empty text stands for none. -/
def unlessEmpty : Value → Value
  | .text (.string "") => .null
  | v => v

/-- Whether options say for a language what the values say that each setting is given; a setting that
is given none is what it is by default. -/
structure Follows (language : String) (value? : Text.CodePoints → Option Value) (o : Options) :
    Prop where
  language : o.language = language
  fallbackPackage : o.fallbackPackage = (value? "namespace_fallback").elim .null unlessEmpty
  granularity : (value? "granularity").elim (some none) granularity? = some o.granularity
  bundleRuntime : (value? "bundle_runtime").elim (some true) boolOf? = some o.bundleRuntime
  runtimeOutput : o.runtimeOutput = (value? "runtime_output").elim .null unlessEmpty
  addComments : (value? "add_comments").elim (some true) boolOf? = some o.addComments

theorem granularityOf_ok_iff {settings : Settings} {g : Option Granularity} :
    granularityOf settings = .ok g ↔
      (settings.lookup (.string "granularity")).elim (some none) granularity? = some g := by
  unfold granularityOf granularity?
  cases settings.lookup (.string "granularity") with
  | none => simp
  | some v =>
    cases v
    case null => simp
    all_goals
      simp only [Option.getD_some, Option.elim_some]
      cases Granularity.ofName? _ <;> simp

theorem flag_ok_iff {settings : Settings} {key : String} {b : Bool} :
    flag settings key = .ok b ↔ (settings.lookup (.string key)).elim (some true) boolOf? = some b := by
  unfold flag
  cases settings.lookup (.string key) with
  | none => simp
  | some v => cases word : boolOf? v <;> simp [word]

theorem nonEmpty_eq (settings : Settings) (key : String) :
    nonEmpty settings key = (settings.lookup (.string key)).elim .null unlessEmpty := by
  unfold nonEmpty
  cases settings.lookup (.string key) <;> rfl

theorem ofSettings_ok_iff {language : String} {settings : Settings} {o : Options} :
    ofSettings language settings = .ok o ↔ Follows language (fun key => settings.lookup key) o := by
  simp only [ofSettings, bind_ok_iff, granularityOf_ok_iff, flag_ok_iff, nonEmpty_eq, pure_ok,
    Except.ok.injEq]
  constructor
  · rintro ⟨granularity, asked, bundled, support, comments, header, rfl⟩
    exact ⟨rfl, rfl, asked, support, rfl, header⟩
  · intro follows
    refine ⟨_, follows.granularity, _, follows.bundleRuntime, _, follows.addComments, ?_⟩
    rw [← follows.language, ← follows.fallbackPackage, ← follows.runtimeOutput]

/-- The settings that are read as flags. -/
def flagKeys : List String := ["bundle_runtime", "add_comments"]

/-- The other settings that options are read from. -/
def valueKeys : List String := ["granularity", "namespace_fallback", "runtime_output"]

/-- Settings that mean the same: they are read to the same flags and have the same other values. -/
structure SameUse (s t : Settings) : Prop where
  values : ∀ key ∈ valueKeys, s.lookup (.string key) = t.lookup (.string key)
  flags : ∀ key ∈ flagKeys, flag s key = flag t key

theorem SameUse.ofSettings_eq {s t : Settings} (same : SameUse s t) (language : String) :
    ofSettings language s = ofSettings language t := by
  have granularity : granularityOf s = granularityOf t := by
    simp only [granularityOf, same.values "granularity" (by decide)]
  have package : nonEmpty s "namespace_fallback" = nonEmpty t "namespace_fallback" := by
    simp only [nonEmpty, same.values "namespace_fallback" (by decide)]
  have output : nonEmpty s "runtime_output" = nonEmpty t "runtime_output" := by
    simp only [nonEmpty, same.values "runtime_output" (by decide)]
  simp only [ofSettings, granularity, package, output, same.flags "bundle_runtime" (by decide),
    same.flags "add_comments" (by decide)]

/-- Settings that agree where they mean something give the same options, or the same error. -/
theorem ofSettings_congr {s t : Settings} (same : ∀ key ∈ keys, s.lookup key = t.lookup key)
    (language : String) : ofSettings language s = ofSettings language t := by
  have valuesKnown : ∀ key ∈ valueKeys, Text.CodePoints.string key ∈ keys := by decide
  have flagsKnown : ∀ key ∈ flagKeys, Text.CodePoints.string key ∈ keys := by decide
  refine SameUse.ofSettings_eq ⟨fun key listed => ?_, fun key listed => ?_⟩ language
  · exact same _ (valuesKnown key listed)
  · simp only [flag, same _ (flagsKnown key listed)]

/-! ### Settings that are there before any are given -/

theorem preset_eq (language : String) :
    preset language = [] ∨ preset language = commonPreset := by
  unfold preset
  cases found : presets.lookup language with
  | none => exact .inl rfl
  | some settings =>
    have listed : (language, settings) ∈ presets := mem_of_lookup found
    refine .inr (?_ : settings = commonPreset)
    simp only [presets, List.mem_cons, Prod.mk.injEq, List.not_mem_nil, or_false] at listed
    rcases listed with ⟨-, rfl⟩ | ⟨-, rfl⟩ | ⟨-, rfl⟩ <;> rfl

theorem lookup_preset_value (language : String) {key : String} (listed : key ∈ valueKeys) :
    (preset language).lookup (.string key) = none := by
  simp only [valueKeys, List.mem_cons, List.not_mem_nil, or_false] at listed
  rcases preset_eq language with here | here <;> rw [here] <;>
    rcases listed with rfl | rfl | rfl <;> rfl

theorem lookup_preset_flag (language : String) {key : String} (listed : key ∈ flagKeys) :
    (preset language).lookup (.string key) = none ∨
      (preset language).lookup (.string key) = some (.bool true) := by
  simp only [flagKeys, List.mem_cons, List.not_mem_nil, or_false] at listed
  rcases preset_eq language with here | here <;> rw [here]
  · exact .inl rfl
  · rcases listed with rfl | rfl <;> exact .inr rfl

/-- A flag that is true before any settings are given is true without them. -/
theorem flag_eq_of_or {s t : Settings} {key : String} {before : Option Value}
    (found : s.lookup (.string key) = (t.lookup (.string key)).or before)
    (default : before = none ∨ before = some (.bool true)) : flag s key = flag t key := by
  unfold flag
  rw [found]
  cases t.lookup (.string key) with
  | some v => rfl
  | none => rcases default with rfl | rfl <;> rfl

/-- What is set before any settings are given goes without saying. -/
theorem sameUse_preset (language : String) (overrides : Settings) {settings : Settings}
    (distinct : (settings.map (·.1)).Nodup) :
    SameUse (putEntries (putEntries (preset language) settings) overrides)
      (putEntries settings overrides) := by
  have found (key : Text.CodePoints) :
      (putEntries (putEntries (preset language) settings) overrides).lookup key =
        ((putEntries settings overrides).lookup key).or ((preset language).lookup key) := by
    rw [lookup_putEntries, lookup_putEntries_of_nodup distinct, lookup_putEntries, Option.or_assoc]
  exact {
    values := fun key listed => by rw [found, lookup_preset_value language listed, Option.or_none]
    flags := fun key listed => flag_eq_of_or (found _) (lookup_preset_flag language listed) }

theorem warningsOf_preset (language : String) (overrides : Settings) {settings : Settings}
    (distinct : (settings.map (·.1)).Nodup) :
    warningsOf (putEntries (putEntries (preset language) settings) overrides) =
      warningsOf (putEntries settings overrides) := by
  have known : (preset language).filter (fun entry => entry.1 ∉ keys) = [] := by
    rcases preset_eq language with here | here <;> rw [here] <;> decide
  have kept : putEntries [] (settings.filter fun entry => entry.1 ∉ keys) =
      settings.filter fun entry => entry.1 ∉ keys :=
    putEntries_of_nodup (distinct.sublist (List.filter_sublist.map _))
  have looked (entries updates : Settings) := filter_putEntries (· ∉ keys) entries updates
  rw [warningsOf, warningsOf, looked, looked, looked, known, kept]

/-- The options of a run come from its overrides and the settings of its file. -/
theorem load_eq {overrides settings : Settings} {file : Option SettingsFile}
    (read : fileSettings file = .ok settings) (language : String) :
    load language overrides file =
      (warningsOf (putEntries settings overrides),
        ofSettings (Text.onString Text.lower language) (putEntries settings overrides)) := by
  have distinct := nodup_fileSettings read
  have opened (before : Settings) : merged before overrides file =
      .ok (putEntries (putEntries before settings) overrides) := by
    cases file with
    | none =>
      cases read
      rfl
    | some file =>
      simp only [fileSettings] at read
      simp [merged, read]
  simp only [load, opened, warningsOf_preset _ _ distinct,
    (sameUse_preset _ overrides distinct).ofSettings_eq]

theorem load_error {file : Option SettingsFile} {cause : OptionError}
    (unread : fileSettings file = .error cause) (language : String) (overrides : Settings) :
    load language overrides file = ([], .error cause) := by
  cases file with
  | none => cases unread
  | some file =>
    simp only [fileSettings] at unread
    simp [load, merged, unread]

/-- Where nothing is given all options are what they are by default. -/
theorem load_nothing (language : String) :
    load language [] none = ([], .ok { language := Text.onString Text.lower language }) := by
  have read : fileSettings none = .ok [] := rfl
  rw [load_eq read]
  rfl

/-! ### What the options of a run come from -/

/-- The names that settings have together, those of the file first. -/
def names (overrides settings : Settings) : List Text.CodePoints :=
  settings.map (·.1) ++ (overrides.map (·.1)).filter (· ∉ settings.map (·.1))

theorem keys_merged {overrides : Settings} (distinct : (overrides.map (·.1)).Nodup)
    (settings : Settings) : (putEntries settings overrides).map (·.1) = names overrides settings :=
  keys_putEntries distinct

theorem lookup_merged {overrides : Settings} (distinct : (overrides.map (·.1)).Nodup)
    (settings : Settings) :
    (fun key => (putEntries settings overrides).lookup key) = given overrides settings :=
  funext fun _ => lookup_putEntries_of_nodup distinct

/-- The options of a run follow its overrides, else its file, else what is the default. Settings that
no option is read from do nothing to them, nor to the error that comes instead, and there is a warning
for each of them. -/
theorem load_follows (language : String) {overrides settings : Settings} {file : Option SettingsFile}
    (distinct : (overrides.map (·.1)).Nodup) (read : fileSettings file = .ok settings) :
    (∀ options, (load language overrides file).2 = .ok options ↔
      Follows (Text.onString Text.lower language) (given overrides settings) options) ∧
    (∀ others file' settings', (others.map (·.1)).Nodup → fileSettings file' = .ok settings' →
      (∀ key ∈ keys, others.lookup key = overrides.lookup key ∧
        settings'.lookup key = settings.lookup key) →
      (load language others file').2 = (load language overrides file).2) ∧
    (names overrides settings).Nodup ∧
    (load language overrides file).1 =
      ((names overrides settings).filter (· ∉ keys)).map unknownKey := by
  refine ⟨?_, ?_, ?_, ?_⟩
  · intro options
    rw [load_eq read, ofSettings_ok_iff, lookup_merged distinct]
  · intro others file' settings' distinctToo readToo same
    rw [load_eq read, load_eq readToo]
    refine ofSettings_congr (fun key known => ?_) _
    obtain ⟨override, setting⟩ := same key known
    rw [lookup_putEntries_of_nodup distinct, lookup_putEntries_of_nodup distinctToo, override, setting]
  · rw [← keys_merged distinct settings]
    exact nodup_putEntries overrides (nodup_fileSettings read)
  · rw [load_eq read, warningsOf_names, keys_merged distinct]

/-- A file with a setting that means something and one that does not. -/
def noted : SettingsFile :=
  ⟨Path.ofString "c.json", .ok "\x7b\"note\": 1, \"granularity\": \"per_file\"\x7d".toUTF8⟩

/-- Overrides of the setting that means something. -/
def perService : Settings := [("granularity", .text "per_service"), ("extra", .null)]

theorem load_follows_override : ∃ settings options, (perService.map (·.1)).Nodup ∧
    fileSettings (some noted) = .ok settings ∧
    (load "KT" perService (some noted)).2 = .ok options ∧ options.granularity = some .perService ∧
    (load "KT" perService (some noted)).1 =
      ["Ignoring unknown option 'note'", "Ignoring unknown option 'extra'"] := by
  have distinct : (perService.map (·.1)).Nodup := by decide
  have read : ∃ settings ∈ (fileSettings (some noted)).toOption,
      settings.map (·.1) = ["note", "granularity"] := by decide +kernel
  obtain ⟨settings, read, listed⟩ := ok_of_toOption read
  obtain ⟨options, loaded⟩ := exists_of_isOk
    (show (load "KT" perService (some noted)).2.isOk = true by decide +kernel)
  obtain ⟨follows, -, -, warned⟩ := load_follows "KT" distinct read
  have asked : (given perService settings "granularity").elim (some none) granularity? =
      some (some .perService) := by
    have overridden : given perService settings "granularity" = some (.text "per_service") := rfl
    rw [overridden]
    decide +kernel
  refine ⟨settings, options, distinct, read, loaded, ?_, ?_⟩
  · exact Option.some.inj (((follows options).mp loaded).granularity.symm.trans asked)
  · rw [warned, names, listed]
    decide +kernel

end Options

end RpcBindings
