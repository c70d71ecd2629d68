import RpcBindings.Entries
import RpcBindings.Text.Blank
import RpcBindings.Text.Split

/-! The parameter of a run: settings as `key=value` pairs with commas between them. A key without a
value has the empty one, and blanks around keys and values do not count. -/
namespace RpcBindings.Parameter

open Text

/-- One pair; a chunk without a key is none. -/
def readPair (chunk : List Char) : Option (List Char × List Char) :=
  let (key, value) := cut '=' (trim chunk)
  if (trim key).isEmpty then none else some (trim key, trim (value.getD []))

/-- The settings in order; a key that is repeated keeps its first place and takes its last value. -/
def read (parameter : String) : List (String × String) :=
  let pairs := (split ',' parameter.toList).filterMap readPair
  putEntries [] (pairs.map fun (key, value) => (String.ofList key, String.ofList value))

def write (settings : List (String × String)) : String :=
  String.intercalate "," (settings.map fun (key, value) => key ++ "=" ++ value)

end RpcBindings.Parameter
