import RpcBindings.Catalog
import RpcBindings.Terminal

/-! What the command line shows: the languages, all about one language, and the files of a run. -/
namespace RpcBindings.Command

open Terminal

/-- Names with commas between them, or the word for no names. -/
def listed (names : List String) : String :=
  if names.isEmpty then "none" else Text.commas names

def languageRow (name : String) (info : LanguageInfo) : List String :=
  let support := if info.support.truthy then info.support.display else "none"
  [name, info.fileSuffix, support, listed info.aliases]

def languageList (c : Catalog) : List String :=
  let table : Table := {
    title := "Supported Languages"
    frame := .rounded
    columns := [⟨"Language", false⟩, ⟨"Extension", false⟩, ⟨"Runtime", false⟩, ⟨"Aliases", false⟩]
    rows := c.allInfo.map fun (name, info) => languageRow name info }
  let start := panel "Quick Start" [
    "Usage: kalamgen api.pb --language LANGUAGE", "Info: kalamgen --language-info LANGUAGE"]
  "" :: table.render ++ "" :: start

/-- The name of a language at the start of a title. -/
def capitalized (name : String) : String := Text.onString Identifier.upperFirst name

def identity (info : LanguageInfo) : List String :=
  ["Language: " ++ info.name, "File Extension: " ++ info.fileSuffix,
    "Template: " ++ info.templateName, "Generator Class: " ++ info.className] ++
  if info.aliases.isEmpty then [] else ["Aliases: " ++ Text.commas info.aliases]

def capabilities (info : LanguageInfo) : Table where
  title := "Capabilities"
  frame := .simple
  columns := [⟨"Setting", false⟩, ⟨"Value", false⟩]
  rows := [
    ["Namespace fallback", info.fallbackPackage.display],
    ["Emits enums/messages", (Value.bool info.emitsTypes).display],
    ["Flat namespace prefix", (Value.bool info.flatNamespace).display],
    ["Runtime file", info.support.display],
    ["Granularity", info.granularity.name]]

def scalarTypes (info : LanguageInfo) : Table where
  title := "Scalar Types"
  frame := .simple
  columns := [⟨"Proto kind", false⟩, ⟨capitalized info.name, false⟩]
  rows := info.scalarTypes.map fun (kind, type) => [kind, type]

def languageDetails (info : LanguageInfo) : List String :=
  "" :: panel (capitalized info.name ++ " Generator") (identity info) ++
    "" :: (capabilities info).render ++ (scalarTypes info).render

def fileTable (files : List OutputFile) (directory : Path) (dryRun : Bool) : Table where
  title := s!"Generated files in {directory}" ++ if dryRun then " (dry run)" else ""
  frame := .simple
  columns := [⟨"File", false⟩, ⟨"Bytes", true⟩]
  rows := files.map fun file => [file.name.toString, toString file.content.size]

end RpcBindings.Command
