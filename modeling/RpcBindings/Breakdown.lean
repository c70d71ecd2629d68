import RpcBindings.Disk
import RpcBindings.Json.Reader
import RpcBindings.Text.CodePoints
import RpcBindings.Text.Utf8

/-! Breakdowns: faults that no stage of a run is prepared for. A run that breaks down ends there and
then, without a report or a response. -/
namespace RpcBindings

inductive Breakdown where
  /-- Bytes that should be text. -/
  | notText (fault : Text.Utf8Fault)
  /-- Text that has no bytes. -/
  | notBytes (fault : Text.EncodeFault)
  /-- The parameter of a request whose bytes are not text. -/
  | parameterNotText
  /-- A schema file that lacks parts that it must have. -/
  | missingParts (paths : List String)
  /-- A document that exceeds a limit. -/
  | limit (exceeded : Json.Limit)
  /-- A path that the disk cannot even look for. -/
  | disk (fault : DiskFault)
  /-- The option for the language without a value. -/
  | noLanguage
  /-- The option for a schema file without a value. -/
  | noFile
  /-- The option for the output directory without a value. -/
  | noDirectory
  /-- A loop over what has no items. -/
  | notIterable (typeName : String)
  /-- A call of what is no function. -/
  | notCallable (typeName : String)
  /-- An argument without the member that a function needs. -/
  | noMember (typeName member : String)
  /-- A value that cannot be looked up among others. -/
  | notHashable (typeName : String)
  /-- A value put behind a text that is no text itself. -/
  | notAppendable (typeName : String)
  /-- A value in a row of texts that is no text itself, by its place in the row. -/
  | notJoinable (index : Nat) (typeName : String)
  /-- Messages that refer to each other in a longer row than the stack has room for. -/
  | stack
  /-- An error in an engine for templates that the engine does not report, by its kind. -/
  | raised (kind message : String)
  deriving DecidableEq, Repr

def Breakdown.message : Breakdown → String
  | notText fault => fault.message
  | notBytes fault => fault.message
  | parameterNotText => "a bytes-like object is required, not 'str'"
  | missingParts paths =>
    "Message google.protobuf.FileDescriptorProto is missing required fields: " ++
      String.intercalate "," paths
  | limit exceeded => exceeded.message
  | disk fault => fault.message
  | noLanguage => "'list' object has no attribute 'lower'"
  | noFile => "unhashable type: 'list'"
  | noDirectory => "expected str, bytes or os.PathLike object, not list"
  | notIterable typeName => s!"'{typeName}' object is not iterable"
  | notCallable typeName => s!"'{typeName}' object is not callable"
  | noMember typeName member => s!"'{typeName}' object has no attribute '{member}'"
  | notHashable typeName => s!"unhashable type: '{typeName}'"
  | notAppendable typeName =>
    "can only concatenate str (not \"" ++ typeName ++ "\") to str"
  | notJoinable index typeName =>
    s!"sequence item {index}: expected str instance, {typeName} found"
  | stack => "maximum recursion depth exceeded"
  | raised _ message => message

end RpcBindings
