/-! Features: settings of the schema language that changed from one edition to the next. A file
takes them from its edition, and each declaration may change some of them for what it holds. Only
those that a linked schema shows are kept. -/
namespace RpcBindings.Schema

/-- Features that are set, each by the number of its choice. -/
structure Features where
  fieldPresence : Option Nat := none
  enumType : Option Nat := none
  messageEncoding : Option Nat := none
  jsonFormat : Option Nat := none
  deriving DecidableEq, Repr

namespace Features

/-- Features that hold inside a declaration: its own, else those around it. -/
def inside (inner outer : Features) : Features where
  fieldPresence := inner.fieldPresence <|> outer.fieldPresence
  enumType := inner.enumType <|> outer.enumType
  messageEncoding := inner.messageEncoding <|> outer.messageEncoding
  jsonFormat := inner.jsonFormat <|> outer.jsonFormat

def requiresFields (f : Features) : Bool := f.fieldPresence == some 3

/-- An enum takes no numbers but those of its constants. -/
def closesEnums (f : Features) : Bool := f.enumType == some 2

/-- Messages inside messages are written between two marks. -/
def delimitsMessages (f : Features) : Bool := f.messageEncoding == some 2

def allowsJson (f : Features) : Bool := f.jsonFormat == some 1

end Features

/-- The edition that stands for files of the oldest dialect. -/
def earliestEdition : Nat := 998

/-- The edition that stands for files of the second dialect. -/
def secondEdition : Nat := 999

/-- The first edition that a file can name. -/
def firstNamedEdition : Nat := 1000

/-- The last edition that there are features for. -/
def latestEdition : Nat := 1001

def editionName : Nat → String
  | 998 => "PROTO2"
  | 999 => "PROTO3"
  | 1000 => "2023"
  | 1001 => "2024"
  | _ => "UNKNOWN"

def Features.ofEdition (edition : Nat) : Features where
  fieldPresence := some (if edition = secondEdition then 2 else 1)
  enumType := some (if edition < secondEdition then 2 else 1)
  messageEncoding := some 1
  jsonFormat := some (if edition < secondEdition then 2 else 1)

end RpcBindings.Schema
