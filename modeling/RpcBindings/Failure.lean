import RpcBindings.Generator
import RpcBindings.Schema.Load

/-! Why there is no output: each stage between a request and its files has failures of its own. -/
namespace RpcBindings

/-- Why the catalog of languages refuses a request. -/
inductive CatalogError where
  /-- What is to be registered is no target language. -/
  | notTarget
  | aliasOfPrimary (key : String)
  | aliasTaken (key language : String)
  | unknownLanguage (language : String) (available : List String)
  /-- Options given as a value that stands for none. -/
  | unusableOptions (typeName : String)
  deriving DecidableEq, Repr

def CatalogError.message : CatalogError → String
  | notTarget => "Generator class must inherit from CodeGenerator"
  | aliasOfPrimary key => s!"Alias '{key}' conflicts with existing primary language"
  | aliasTaken key language => s!"Alias '{key}' already points to '{language}'"
  | unknownLanguage language available =>
    s!"No generator registered for language: {language}. " ++
      s!"Available: {Text.commas available}"
  | unusableOptions typeName => s!"Invalid config type: <class '{typeName}'>"

inductive Failure where
  | options (cause : OptionError)
  | catalog (cause : CatalogError)
  | schema (cause : Schema.LoadError)
  | run (cause : RunError)

/-- The breakdown behind a failure, if it is one. -/
def Failure.breakdown? : Failure → Option Breakdown
  | options cause => cause.breakdown?
  | schema cause => cause.breakdown?
  | run cause => cause.breakdown?
  | catalog _ => none

def Failure.message : Failure → String
  | options cause => cause.message
  | catalog cause => cause.message
  | schema cause => cause.message
  | run cause => cause.message

end RpcBindings
