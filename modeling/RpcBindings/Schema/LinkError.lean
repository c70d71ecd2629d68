import RpcBindings.Schema.Features
import RpcBindings.Schema.Literal

/-! Why a schema file cannot be linked. A message shows a name up to its first NUL, and is cut off
where it grows too long. -/
namespace RpcBindings.Schema

/-- The part of a map that a field of its message stands for. -/
inductive MapPart where
  | key | value
  deriving DecidableEq, Repr

/-- The reason why a file cannot join the files linked before it. -/
inductive LinkError where
  | duplicateFile (name : String)
  | nulInFileName
  | unknownDialect (name : String)
  | editionTooEarly (edition : Nat)
  | editionTooLate (edition : Nat)
  | featuresOutsideEditions
  | missingDependency (name : String)
  | publicDependencyOutOfRange (index : Int)
  | weakDependencyOutOfRange (index : Int)
  /-- A dot where a name part should start, or in a name of one part. -/
  | unexpectedDot (name : String)
  | partStart (name : String)
  | nonAlphanumeric (name : String)
  | emptyPart (name : String)
  | duplicateSymbol (fullName : String)
  | fieldNumber (unsigned : Nat)
  | duplicateFieldName (name : String)
  | duplicateFieldNumber (number : Int)
  | duplicateJsonName (name : String)
  /-- A name in JSON documents that is the proper name of another field. -/
  | jsonNameTaken (field name : String)
  | typeNameRequired (type : Nat) (field : String)
  | typeNameForbidden (type : Nat) (field : String)
  | requiredField (field : String)
  | explicitDefault (field : String)
  | messageDefault (field : String)
  | badDefault (cause : LiteralError) (text field : String) (type : Nat)
  | duplicateOneof (fullName : String)
  | oneofOutOfRange (field : String)
  | oneofOutsideMessage (field : String)
  | oneofOfExtension (field : String)
  | oneofNumberTwice (number : Int)
  | oneofNameTwice (name : String)
  | oneofCardinality (field : String)
  | optionalOutsideOneof (field : String)
  | crowdedSyntheticOneof (count : Nat) (oneof : String)
  | syntheticOneofFirst (oneof : String)
  | messageSetWithFields (fullName : String)
  | extensionRange (first last : Int) (fullName : String)
  | reservedRange (first last : Int) (owner fullName : String)
  | emptyEnum (fullName : String)
  | openEnumStart (fullName : String)
  | unresolved (name : String)
  | unresolvedField (field : String)
  /-- A name that denotes something else than the message (1) or enum (2) it should. -/
  | wrongKind (user name : String) (wanted : Nat)
  | noExtendee (field : String)
  | outsideExtensionRanges (number : Nat) (field message : String)
  /-- Two extensions of a message with one number. -/
  | duplicateExtension
  /-- A map whose message has more or fewer than two fields. -/
  | mapShape
  | mapPartRepeated (part : MapPart)
  | mapPartType (part : MapPart) (type : Nat)
  | misplacedMap (fullName : String)
  deriving DecidableEq, Repr

def MapPart.name : MapPart → String
  | key => "key"
  | value => "val"

def LiteralError.message (cause : LiteralError) (text field : String) (type : Nat) : String :=
  match cause with
  | tooLong => s!"Default too long: {text}"
  | invalid => s!"Invalid default '{text}' for field {field} of type {type}"
  | unfinishedEscape => s!"unterminated escape sequence in field {field}"
  | emptyHexEscape => s!"\\x must be followed by at least one hex digit (field='{field}')"
  | wideHexEscape => s!"Value of hex escape in field {field} exceeds 8 bits"
  | unknownEscape c => "Unknown escape sequence: \\" ++ c.toString

def LinkError.message : LinkError → String
  | duplicateFile name => s!"duplicate file name {name}"
  | nulInFileName => "File name contained embedded NULL"
  | unknownDialect name => s!"Invalid syntax '{name}'"
  | editionTooEarly edition =>
    "Edition " ++ editionName edition ++ " is earlier than the minimum edition " ++
      editionName earliestEdition ++ " given in the defaults"
  | editionTooLate edition =>
    "Edition " ++ editionName edition ++ " is later than the maximum edition " ++
      editionName latestEdition ++ " given in the defaults"
  | featuresOutsideEditions => "Features can only be specified for editions"
  | missingDependency name => s!"Depends on file '{name}', but it has not been loaded"
  | publicDependencyOutOfRange index => s!"public_dep {index} is out of range"
  | weakDependencyOutOfRange index => s!"weak_dep {index} is out of range"
  | unexpectedDot name => s!"invalid name: unexpected '.' ({name})"
  | partStart name => s!"invalid name: path components must start with a letter ({name})"
  | nonAlphanumeric name => s!"invalid name: non-alphanumeric character ({name})"
  | emptyPart name => s!"invalid name: empty part ({name})"
  | duplicateSymbol fullName => s!"duplicate symbol '{fullName}'"
  | fieldNumber unsigned => s!"invalid field number ({unsigned})"
  | duplicateFieldName name => s!"duplicate field name ({name})"
  | duplicateFieldNumber number => s!"duplicate field number ({number})"
  | duplicateJsonName name => s!"duplicate json_name ({name})"
  | jsonNameTaken field name =>
    s!"duplicate json_name for ({field}) with original field name ({name})"
  | typeNameRequired type field => s!"field of type {type} requires type name ({field})"
  | typeNameForbidden type field =>
    s!"invalid type for field with type_name set ({field}, {type})"
  | requiredField field => s!"proto3 fields cannot be required ({field})"
  | explicitDefault field => s!"proto3 fields cannot have explicit defaults ({field})"
  | messageDefault field => s!"message fields cannot have explicit defaults ({field})"
  | badDefault cause text field type => cause.message text field type
  | duplicateOneof fullName => s!"duplicate oneof name ({fullName})"
  | oneofOutOfRange field => s!"oneof_index out of range ({field})"
  | oneofOutsideMessage field => s!"oneof field ({field}) has no containing msg"
  | oneofOfExtension field => s!"oneof_index provided for extension field ({field})"
  | oneofNumberTwice number => s!"oneof fields have the same number ({number})"
  | oneofNameTwice name => s!"oneof fields have the same name ({name})"
  | oneofCardinality field => s!"fields in oneof must have OPTIONAL label ({field})"
  | optionalOutsideOneof field =>
    s!"non-extension field ({field}) with proto3_optional was not in a oneof"
  | crowdedSyntheticOneof count oneof =>
    s!"Synthetic oneofs must have one field, not {count}: {oneof}"
  | syntheticOneofFirst oneof => s!"Synthetic oneofs must be after all other oneofs: {oneof}"
  | messageSetWithFields fullName => s!"invalid message set ({fullName})"
  | extensionRange first last fullName =>
    s!"Extension range ({first}, {last}) is invalid, message={fullName}\n"
  | reservedRange first last owner fullName =>
    s!"Reserved range ({first}, {last}) is invalid, {owner}={fullName}\n"
  | emptyEnum fullName => s!"enums must contain at least one value ({fullName})"
  | openEnumStart fullName => s!"for open enums, the first value must be zero ({fullName})"
  | unresolved name => s!"couldn't resolve name '{name}'"
  | unresolvedField field => s!"Couldn't resolve type name for field {field}"
  | wrongKind user name wanted =>
    s!"type mismatch when resolving {user}: couldn't find name {name} with type={wanted}"
  | noExtendee field => s!"extension for field '{field}' had no extendee"
  | outsideExtensionRanges number field message =>
    s!"field number {number} in extension {field} has no extension range in message {message}"
  | duplicateExtension => "duplicate extension entry"
  | mapShape => "out of memory"
  | mapPartRepeated part =>
    s!"Error building mini table: map {part.name} cannot be repeated or map, or be in oneof"
  | mapPartType part type =>
    s!"Error building mini table: map {part.name} cannot have type {type}"
  | misplacedMap fullName => s!"invalid submsg for ({fullName})"

def longestReason : Nat := 510

def LinkError.shown (e : LinkError) : String :=
  let bytes := e.message.toUTF8.data.toList
  if bytes.length ≤ longestReason then e.message else Text.marked (bytes.take longestReason)

end RpcBindings.Schema
