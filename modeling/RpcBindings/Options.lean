import RpcBindings.Breakdown
import RpcBindings.Parameter
import RpcBindings.Text.Case
import RpcBindings.Text.Newline

/-! The options of a run, put together from a file of settings and from overrides. Overrides win
over the file, and keys that mean nothing are passed over with a warning. -/
namespace RpcBindings

inductive Granularity where
  | perFile
  | perService
  deriving DecidableEq, Repr

def Granularity.name : Granularity → String
  | perFile => "per_file"
  | perService => "per_service"

def Granularity.ofName? (name : String) : Option Granularity :=
  [perFile, perService].find? fun g => g.name == name

def defaultLanguage : String := "dart"

/-- The options of a run. A null package or output name leaves the choice to the language. -/
structure Options where
  language : String := defaultLanguage
  fallbackPackage : Value := .null
  granularity : Option Granularity := none
  bundleRuntime : Bool := true
  runtimeOutput : Value := .null
  addComments : Bool := true

inductive OptionError where
  | invalidGranularity (value : Value)
  | invalidBoolean (key : String) (value : Value)
  | fileNotFound (path : Path)
  | fileNotJson (path : Path)
  | invalidJson (path : Path) (reason : Json.Located)
  | unreadable (path : Path) (error : DiskError)
  | notObject (path : Path)
  | broken (cause : Breakdown)

def OptionError.message : OptionError → String
  | invalidGranularity value => s!"Invalid granularity: {value.literal}"
  | invalidBoolean key value => s!"Invalid boolean for {key}: {value.literal}"
  | fileNotFound path => s!"Configuration file not found: {path}"
  | fileNotJson path => s!"Configuration file must be JSON: {path}"
  | invalidJson path reason =>
    s!"Invalid JSON in configuration file {path}: {reason.message}"
  | unreadable path error =>
    s!"Failed to load configuration file {path}: {(DiskFault.mk error path).message}"
  | notObject path => s!"Configuration file must contain a JSON object: {path}"
  | broken cause => cause.message

/-- The breakdown behind an error, if it is one. -/
def OptionError.breakdown? : OptionError → Option Breakdown
  | broken cause => some cause
  | _ => none

/-- Named values in order. -/
abbrev Settings := List (Text.CodePoints × Value)

namespace Options

def keys : List Text.CodePoints :=
  ["language", "namespace_fallback", "granularity", "bundle_runtime", "runtime_output",
    "add_comments"]

def unknownKey (key : Text.CodePoints) : String := "Ignoring unknown option " ++ key.quote

def trueWords : List (List Char) :=
  ["1".toList, "true".toList, "yes".toList, "on".toList, []]

def falseWords : List (List Char) :=
  ["0".toList, "false".toList, "no".toList, "off".toList]

def boolOf? (v : Value) : Option Bool :=
  match v with
  | .bool b => some b
  | _ =>
    let word := Text.lower (Text.trim v.display.toList)
    if word ∈ trueWords then some true
    else if word ∈ falseWords then some false
    else none

/-- A truth value switches as it says. Any other value switches as the word does that it is shown as, in
any case and with blanks around it. -/
theorem boolOf?_eq_some_iff {v : Value} {b : Bool} : boolOf? v = some b ↔
    v = .bool b ∨ (∀ c, v ≠ .bool c) ∧ Text.lower (Text.trim v.display.toList) ∈
      (if b then ["1", "true", "yes", "on", ""] else ["0", "false", "no", "off"]).map String.toList := by
  have yes : ["1", "true", "yes", "on", ""].map String.toList = trueWords := by decide
  have no : ["0", "false", "no", "off"].map String.toList = falseWords := by decide
  have apart : ∀ word ∈ falseWords, word ∉ trueWords := by decide
  unfold boolOf?
  split
  case h_1 c => simp
  case h_2 other =>
    have noBool : ∀ c, v ≠ .bool c := fun c same => other c same
    generalize Text.lower (Text.trim v.display.toList) = word
    cases b with
    | true =>
      by_cases listed : word ∈ trueWords
      · simp [listed, yes, noBool]
      · by_cases off : word ∈ falseWords <;> simp [listed, off, yes, noBool]
    | false =>
      by_cases off : word ∈ falseWords
      · simp [off, apart word off, no, noBool]
      · by_cases listed : word ∈ trueWords <;> simp [listed, off, no, noBool]

/-- A setting that is true unless it is set. -/
def flag (settings : Settings) (key : String) : Except OptionError Bool :=
  match settings.lookup (.string key) with
  | none => .ok true
  | some v =>
    match boolOf? v with
    | some b => .ok b
    | none => .error (.invalidBoolean key v)

def granularityOf (settings : Settings) : Except OptionError (Option Granularity) :=
  match (settings.lookup (.string "granularity")).getD .null with
  | .null => .ok none
  | v =>
    match Granularity.ofName? (Text.onString Text.lower v.display) with
    | some g => .ok (some g)
    | none => .error (.invalidGranularity v)

def nonEmpty (settings : Settings) (key : String) : Value :=
  match (settings.lookup (.string key)).getD .null with
  | .text (.string "") => .null
  | v => v

/-- Options from settings, for a language in lowercase. -/
def ofSettings (language : String) (settings : Settings) : Except OptionError Options := do
  let granularity ← granularityOf settings
  let bundleRuntime ← flag settings "bundle_runtime"
  let addComments ← flag settings "add_comments"
  return {
    language := language
    fallbackPackage := nonEmpty settings "namespace_fallback"
    granularity := granularity
    bundleRuntime := bundleRuntime
    runtimeOutput := nonEmpty settings "runtime_output"
    addComments := addComments }

def readBytes (path : Path) (bytes : ByteArray) : Except OptionError Settings := do
  let text ← (Text.decodeUtf8 bytes.data.toList).mapError fun fault => .broken (.notText fault)
  match Json.read (Text.unifyNewlines text) with
  | .ok (.dict entries) => return entries
  | .ok _ => .error (.notObject path)
  | .error (.malformed reason) => .error (.invalidJson path reason)
  | .error (.beyond limit) => .error (.broken (.limit limit))

/-- The settings in a file, given what a look at its path shows. That the file is there comes first,
then its name, then its content. -/
def readFile (path : Path) (sight : Disk.Sight) : Except OptionError Settings :=
  let isJson := Text.onString Text.lower path.suffix == ".json"
  match sight with
  | .ok bytes => if isJson then readBytes path bytes else .error (.fileNotJson path)
  | .error error =>
    if error.isAbsence then .error (.fileNotFound path)
    else if error = .nameTooLong then .error (.broken (.disk ⟨error, path⟩))
    else if isJson then .error (.unreadable path error)
    else .error (.fileNotJson path)

def warningsOf (settings : Settings) : List String :=
  (settings.filter fun entry => entry.1 ∉ keys).map fun entry => unknownKey entry.1

/-- A file of settings: its path and what a look at it shows. -/
structure SettingsFile where
  path : Path
  sight : Disk.Sight

/-- What all languages are set to alike; it is what is in force without it. -/
def commonPreset : Settings := [("add_comments", .bool true), ("bundle_runtime", .bool true)]

/-- The settings that each language has before any are given. Only names of languages are here, not
their aliases. -/
def presets : List (String × Settings) :=
  [("kotlin", commonPreset), ("swift", commonPreset), ("dart", commonPreset)]

/-- The settings that a run has before any are given, its language in lowercase. -/
def preset (language : String) : Settings := (presets.lookup language).getD []

/-- The settings of a run: those of the file put over what was there before, and the overrides over
both. -/
def merged (before overrides : Settings) (file : Option SettingsFile) :
    Except OptionError Settings := do
  match file with
  | none => return putEntries before overrides
  | some file =>
    return putEntries (putEntries before (← readFile file.path file.sight)) overrides

/-- The options of a run with the warnings about its settings. -/
def load (language : String) (overrides : Settings) (file : Option SettingsFile) :
    List String × Except OptionError Options :=
  let name := Text.onString Text.lower language
  match merged (preset name) overrides file with
  | .error e => ([], .error e)
  | .ok settings => (warningsOf settings, ofSettings name settings)

/-- What a parameter says: the language, the path of a file of settings, and the overrides. -/
structure Request where
  language : String
  file : Option Path
  overrides : Settings

/-- The path that a text names; the empty text names no file. -/
def path? (name : String) : Option Path := if name = "" then none else some (Path.ofString name)

/-- Reads a parameter: `lang` chooses the language, `config` names a file, all else overrides. -/
def Request.ofParameter (parameter : String) : Request :=
  let settings := Parameter.read parameter
  let language := (settings.lookup "lang").getD ""
  { language := if language = "" then defaultLanguage else language
    file := path? ((settings.lookup "config").getD "")
    overrides := (settings.filter fun entry => entry.1 ≠ "lang" ∧ entry.1 ≠ "config").map
      fun entry => (.string entry.1, .text entry.2) }

/-- The options that a request asks for, its file looked at through `look`. -/
def Request.load (r : Request) (look : Path → Disk.Sight) :
    List String × Except OptionError Options :=
  Options.load r.language r.overrides (r.file.map fun path => ⟨path, look path⟩)

end Options

end RpcBindings
