import RpcBindings.Text.Case
import RpcBindings.Text.Split

/-! How much is logged: levels are numbers, the usual ones have names. -/
namespace RpcBindings.LogLevel

def named : List (String × Int) := [
  ("NOTSET", 0), ("DEBUG", 10), ("INFO", 20), ("WARN", 30), ("WARNING", 30), ("ERROR", 40),
  ("FATAL", 50), ("CRITICAL", 50)]

/-- The level for warnings, which also stands in for names that mean nothing. -/
def warning : Int := 30

def ofName (name : String) : Int := (named.lookup (Text.onString Text.upper name)).getD warning

inductive Choice where
  | name (text : String)
  | number (n : Int)
  deriving DecidableEq, Repr

def Choice.level : Choice → Int
  | name text => ofName text
  | number n => n

/-- The level of a run: the one it asks for, else the one its surroundings name, else warnings. -/
def chosen (choice : Option Choice) (surrounding : Option String) : Int :=
  match choice, surrounding with
  | some choice, _ => choice.level
  | none, some name => ofName name
  | none, none => warning

/-- Whether warnings are logged at a level; the lowest level leaves that to the default. -/
def showsWarnings (level : Int) : Bool := level ≤ warning

def root : List Char := "kalamgen".toList

/-- The full name of a logger: the root goes before it unless the name starts with it. -/
def loggerName (name : String) : String :=
  if root.isPrefixOf name.toList then name else String.ofList (root ++ '.' :: name.toList)

end RpcBindings.LogLevel
