import RpcBindings.Failure

/-! The catalog of target languages: each is registered under a name and can have aliases. Names and
aliases are kept in lowercase, and a name goes before an alias that is spelled the same. -/
namespace RpcBindings

/-- The languages by name, and the name that each alias stands for. -/
structure Catalog where
  targets : List (String × Target) := []
  aliases : List (String × String) := []
  deriving DecidableEq, Repr

inductive OptionSource where
  | defaults
  | overrides (settings : Settings)
  | file (path : Option Path)
  /-- Options that are used as they are. -/
  | ready (options : Options)
  /-- A value that no options can be read from. -/
  | unusable (value : Value)

/-- The options that a value stands for: none, overrides, or the name of a file. -/
def OptionSource.ofValue : Value → OptionSource
  | .null => defaults
  | .dict entries => overrides entries
  | .text name => file (Options.path? name.toString)
  | v => unusable v

/-- A description together with what the catalog knows. -/
structure LanguageInfo extends Description where
  className : String
  moduleName : String
  aliases : List String

namespace Catalog

def key (name : String) : String := Text.onString Text.lower name

def languages (c : Catalog) : List String := Text.sorted (c.targets.map (·.1))

/-- The name behind a name or alias: a name stands for itself. -/
def primary? (c : Catalog) (language : String) : Option String :=
  if (c.targets.lookup (key language)).isSome then some (key language)
  else c.aliases.lookup (key language)

/-- The name behind a name or alias, or the reason why there is none. -/
def resolveName (c : Catalog) (language : String) : Except CatalogError String :=
  match c.primary? language with
  | some name => .ok name
  | none => .error (.unknownLanguage language c.languages)

/-- The target with a name or alias, under its name. -/
def find? (c : Catalog) (language : String) : Option (String × Target) :=
  (c.primary? language).bind fun name => (c.targets.lookup name).map fun target => (name, target)

/-- The target with a name or alias, under its name, or the reason why there is none. An alias for a
name that has no target is as good as unknown; registrations leave none behind. -/
def resolve (c : Catalog) (language : String) : Except CatalogError (String × Target) :=
  match c.find? language with
  | some found => .ok found
  | none => .error (.unknownLanguage language c.languages)

def supports (c : Catalog) (language : String) : Bool :=
  (c.targets.lookup (key language)).isSome || (c.aliases.lookup (key language)).isSome

def aliasesOf (c : Catalog) (language : String) : List String :=
  Text.sorted ((c.aliases.filter (·.2 == key language)).map (·.1))

/-- The reason why an alias cannot stand for a language, if there is one. -/
def conflict? (c : Catalog) (language synonym : String) : Option CatalogError :=
  if (c.targets.lookup synonym).isSome then some (.aliasOfPrimary synonym)
  else match c.aliases.lookup synonym with
    | some other => if other = language then none else some (.aliasTaken synonym other)
    | none => none

/-- Registers a target under a name with aliases; the aliases that only repeat the name are left
out. A name that is taken keeps its target, and an alias that is taken is an error, unless what is
there is to be replaced. Nothing is registered if any alias is refused. -/
def register (c : Catalog) (language : String) (candidate : Option Target) (aliases : List String)
    (replace : Bool) : Except CatalogError Catalog :=
  match candidate with
  | none => .error .notTarget
  | some target =>
    let name := key language
    let keys := (aliases.map key).filter (· ≠ name)
    let refusal := if replace then none else keys.findSome? (c.conflict? name)
    if (c.targets.lookup name).isSome && !replace then .ok c
    else match refusal with
      | some e => .error e
      | none => .ok {
          targets := putEntry name target c.targets
          aliases := putEntries c.aliases (keys.map fun synonym => (synonym, name)) }

/-- What is done to a catalog in place. If it ends in an error, the catalog stays as it was left. -/
abbrev Change := EStateM CatalogError Catalog Unit

namespace Change

/-- Refuses an alias that cannot stand for a language. -/
def checkAlias (language synonym : String) : Change := do
  match (← get).conflict? language synonym with
  | some cause => throw cause
  | none => return

def setTarget (name : String) (target : Target) : Change :=
  modify fun c => { c with targets := putEntry name target c.targets }

def setAlias (language synonym : String) : Change :=
  modify fun c => { c with aliases := putEntry synonym language c.aliases }

/-- Registers a target in place, one step after the other: all aliases are checked before the first
change is made. -/
def register (language : String) (candidate : Option Target) (aliases : List String)
    (replace : Bool) : Change := do
  match candidate with
  | none => throw .notTarget
  | some target =>
    let name := key language
    if ((← get).targets.lookup name).isSome && !replace then return
    let keys := (aliases.map key).filter (· ≠ name)
    unless replace do keys.forM (checkAlias name)
    setTarget name target
    keys.forM (setAlias name)

end Change

/-- The options for a language, with the warnings about them; files are looked at through `look`. -/
def options (language : String) (source : OptionSource) (look : Path → Disk.Sight) :
    List String × Except Failure Options :=
  let load (overrides : Settings) (file : Option Options.SettingsFile) :=
    let (warnings, loaded) := Options.load language overrides file
    (warnings, loaded.mapError Failure.options)
  match source with
  | .defaults => load [] none
  | .overrides settings => load settings none
  | .file path => load [] (path.map fun path => ⟨path, look path⟩)
  | .ready options => ([], .ok options)
  | .unusable value => ([], .error (.catalog (.unusableOptions value.typeName)))

/-- The generator for a language, with the warnings about its options. -/
def create (c : Catalog) (language : String) (source : OptionSource) (look : Path → Disk.Sight) :
    List String × Except Failure Generator :=
  match c.resolve language with
  | .error e => ([], .error (.catalog e))
  | .ok (name, target) =>
    let (warnings, loaded) := options name source look
    (warnings, loaded.map fun options => { target, options })

/-- The generator for a language with ready options. -/
def createWith (c : Catalog) (language : String) (options : Options) :
    Except CatalogError Generator := do
  let (_, target) ← c.resolve language
  return { target, options }

/-- What there is to know about a language with the options that it has by default. -/
def info (c : Catalog) (language : String) : Except CatalogError LanguageInfo := do
  let (name, target) ← c.resolve language
  let generator : Generator := { target, options := { language := key name } }
  return {
    generator.describe with
    className := target.className
    moduleName := target.moduleName
    aliases := c.aliasesOf name }

def allInfo (c : Catalog) : List (String × LanguageInfo) :=
  c.languages.filterMap fun name => (c.info name).toOption.map fun info => (name, info)

def builtin : Catalog where
  targets := [("kotlin", Target.kotlin), ("swift", Target.swift), ("dart", Target.dart)]
  aliases := [("kt", "kotlin")]

end Catalog

end RpcBindings
