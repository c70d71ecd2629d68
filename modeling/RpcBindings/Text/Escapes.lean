import RpcBindings.Text.CodePoints

/-! Escapes inside quoted texts: a backslash and the characters behind it stand for one code point,
or for nothing at the end of a line. A backslash that begins no escape stands for itself. -/
namespace RpcBindings.Text

inductive EscapeFault where
  /-- Too few digits behind the letter, which asks for `width` of them. -/
  | truncated (letter : Char) (width : Nat)
  /-- A number that is no code point. -/
  | outOfRange
  | malformedName
  | unknownName
  deriving DecidableEq, Repr

def EscapeFault.message : EscapeFault → String
  | truncated letter width =>
    "truncated \\" ++ String.ofList (letter :: List.replicate width 'X') ++ " escape"
  | outOfRange => "illegal Unicode character"
  | malformedName => "malformed \\N character escape"
  | unknownName => "unknown Unicode character name"

def hexValue? (c : Char) : Option Nat :=
  if '0' ≤ c ∧ c ≤ '9' then some (c.toNat - '0'.toNat)
  else if 'a' ≤ c ∧ c ≤ 'f' then some (c.toNat - 'a'.toNat + 10)
  else if 'A' ≤ c ∧ c ≤ 'F' then some (c.toNat - 'A'.toNat + 10)
  else none

/-- The number that a row of digits denotes, if all of them are digits. -/
def hexNumber? (digits : List Char) : Option Nat :=
  digits.foldlM (fun n c => (hexValue? c).map fun digit => n * 16 + digit) 0

/-- Whether a character is a digit of an octal number. -/
def isOctal (c : Char) : Bool := '0' ≤ c && c ≤ '7'

/-- The control character that a letter behind a backslash stands for, or the mark itself. -/
def letterEscape? : Char → Option Nat
  | 'a' => some 7
  | 'b' => some 8
  | 't' => some 9
  | 'n' => some 10
  | 'v' => some 11
  | 'f' => some 12
  | 'r' => some 13
  | c => if c = '\\' ∨ c = '\x27' ∨ c = '\x22' then some c.toNat else none

/-- How many digits belong to a letter that introduces a hexadecimal number. -/
def hexWidth? : Char → Option Nat
  | 'x' => some 2
  | 'u' => some 4
  | 'U' => some 8
  | _ => none

/-- A character outside ASCII by its number, as behind a backslash. -/
def numbered (c : Char) : List Char :=
  if c.toNat < 0x100 then 'x' :: hexDigits 2 c.toNat
  else if c.toNat < 0x10000 then 'u' :: hexDigits 4 c.toNat
  else 'U' :: hexDigits 8 c.toNat

/-- What the text behind a backslash stands for, and how many characters of it that takes. -/
def escapeAt : List Char → Except EscapeFault (List Nat × Nat)
  | [] => .ok (['\\'.toNat], 0)
  | '\n' :: _ => .ok ([], 1)
  | c :: rest =>
    match letterEscape? c, hexWidth? c with
    | some code, _ => .ok ([code], 1)
    | none, some width =>
      let digits := rest.take width
      match hexNumber? digits with
      | some code =>
        if digits.length < width then .error (.truncated c width)
        else if 0x10FFFF < code then .error .outOfRange
        else .ok ([code], width + 1)
      | none => .error (.truncated c width)
    | none, none =>
      if isOctal c then
        let digits := ((c :: rest).take 3).takeWhile isOctal
        .ok ([digits.foldl (fun n d => n * 8 + (d.toNat - '0'.toNat)) 0], digits.length)
      else if c = 'N' then
        if rest.head? = some '\x7b' ∧ '\x7d' ∈ rest then .error .unknownName
        else .error .malformedName
      else if c.toNat < 0x80 then .ok (['\\'.toNat, c.toNat], 1)
      else .ok ('\\'.toNat :: (numbered c).map Char.toNat, 1)

/-- Code points of a text with escapes; `skip` characters have been taken by the last one. -/
def unescapeFrom : (skip : Nat) → List Char → Except EscapeFault (List Nat)
  | _, [] => .ok []
  | skip + 1, _ :: rest => unescapeFrom skip rest
  | 0, c :: rest =>
    if c = '\\' then do
      let (codes, taken) ← escapeAt rest
      return codes ++ (← unescapeFrom taken rest)
    else do return c.toNat :: (← unescapeFrom 0 rest)

def unescape (s : List Char) : Except EscapeFault CodePoints := do
  return .ofCodes (← unescapeFrom 0 s)

end RpcBindings.Text
