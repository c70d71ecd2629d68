import RpcBindings.Text.Printable

/-! Texts as quoted literals, the form in which messages and printed lists show them. -/
namespace RpcBindings.Text

/-- The low `width` hexadecimal digits of a number, in lowercase. -/
def hexDigits : (width : Nat) → Nat → List Char
  | 0, _ => []
  | width + 1, n => hexDigits width (n / 16) ++ [Nat.digitChar (n % 16)]

/-- The mark around a text: an apostrophe, or a double quote if the text holds an apostrophe and no
double quote. -/
def quoteMark (s : List Char) : Char :=
  if '\x27' ∈ s ∧ '\x22' ∉ s then '\x22' else '\x27'

/-- One character between the marks: the mark and the backslash take a backslash, and characters
that are not printable are written by name or by number. -/
def escaped (mark c : Char) : List Char :=
  if c = mark ∨ c = '\\' then ['\\', c]
  else if c = '\n' then ['\\', 'n']
  else if c = '\r' then ['\\', 'r']
  else if c = '\t' then ['\\', 't']
  else if isPrintable c then [c]
  else if c.toNat < 0x100 then '\\' :: 'x' :: hexDigits 2 c.toNat
  else if c.toNat < 0x10000 then '\\' :: 'u' :: hexDigits 4 c.toNat
  else '\\' :: 'U' :: hexDigits 8 c.toNat

def quoted (s : List Char) : List Char :=
  quoteMark s :: s.flatMap (escaped (quoteMark s)) ++ [quoteMark s]

def quote (s : String) : String := String.ofList (quoted s.toList)

end RpcBindings.Text
