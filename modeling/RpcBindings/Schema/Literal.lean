import RpcBindings.Decimal.Rounded
import RpcBindings.Schema.Basic
import RpcBindings.Text.Raw

/-! Default values of fields: literals that are read by the kind of the field and written in one
settled form, by which two defaults are compared. -/
namespace RpcBindings.Schema

open Text (Raw)
open Decimal (Fraction BinaryFormat)

inductive LiteralError where
  | tooLong
  | invalid
  | unfinishedEscape
  | emptyHexEscape
  | wideHexEscape
  | unknownEscape (c : Char)
  deriving DecidableEq, Repr

/-- The blanks before a number. -/
def isLeadingBlank (c : Char) : Bool := c == ' ' || ('\t' ≤ c && c ≤ '\r')

def signOf : List Char → Bool × List Char
  | '-' :: rest => (true, rest)
  | '+' :: rest => (false, rest)
  | s => (false, s)

def digitValue (c : Char) : Nat :=
  if c.isDigit then c.toNat - '0'.toNat else c.toLower.toNat - 'a'.toNat + 10

def digitsValue (base : Nat) (digits : List Char) : Nat :=
  digits.foldl (fun n c => n * base + digitValue c) 0

def isHexDigit (c : Char) : Bool := c.isDigit || ('a' ≤ c.toLower && c.toLower ≤ 'f')

def isOctalDigit (c : Char) : Bool := '0' ≤ c && c ≤ '7'

/-- The value of digits that are all of a base, of which there has to be one. -/
def digits? (base : Nat) (isDigit : Char → Bool) (s : List Char) : Option Nat :=
  if s.isEmpty || !s.all isDigit then none else some (digitsValue base s)

/-- A whole number without sign: hexadecimal behind `0x`, octal behind another `0`. -/
def natural? : List Char → Option Nat
  | '0' :: 'x' :: digits | '0' :: 'X' :: digits => digits? 16 isHexDigit digits
  | '0' :: digits => digits? 8 isOctalDigit ('0' :: digits)
  | digits => digits? 10 Char.isDigit digits

def whole? (s : List Char) : Option Int :=
  if s.isEmpty then some 0
  else
    let (negative, rest) := signOf (s.dropWhile isLeadingBlank)
    (natural? rest).map fun n => if negative then -n else n

def signed? (bits : Nat) (s : List Char) : Option Int := do
  let n ← whole? s
  let bound : Int := Nat.pow 2 (bits - 1)
  if -bound ≤ n ∧ n < bound then some n else none

/-- A whole number of `bits` bits without sign; a negative one counts back from 64 bits. -/
def unsigned? (bits : Nat) (s : List Char) : Option Int := do
  let n ← whole? s
  if 0x10000000000000000 ≤ n.natAbs then none
  else
    let n := n % 0x10000000000000000
    if n < Nat.pow 2 bits then some n else none

inductive RealLiteral where
  | infinite
  | noNumber
  | finite (x : Fraction)

/-- A fraction times a power of a base. Powers out of reach of every format are cut. -/
def timesPower (x : Fraction) (base : Nat) (exponent : Int) : Fraction :=
  let exponent := max (-5000) (min 5000 exponent)
  ⟨x.num * Nat.pow base exponent.toNat, x.den * Nat.pow base (-exponent).toNat⟩

/-- An exponent behind its letter, at the end of a literal. -/
def exponent? (letter : Char) : List Char → Option Int
  | [] => some 0
  | c :: rest =>
    if c.toLower ≠ letter then none
    else
      let (negative, digits) := signOf rest
      (digits? 10 Char.isDigit digits).map fun n => if negative then -n else n

/-- A number with a point in a base, and an exponent that counts `power`s. -/
def pointed? (base power : Nat) (isDigit : Char → Bool) (letter : Char) (s : List Char) :
    Option Fraction := do
  let whole := s.takeWhile isDigit
  let (fraction, rest) := match s.dropWhile isDigit with
    | '.' :: more => (more.takeWhile isDigit, more.dropWhile isDigit)
    | rest => ([], rest)
  let exponent ← exponent? letter rest
  let digits := whole ++ fraction
  if digits.isEmpty then none
  else some (timesPower ⟨digitsValue base digits, Nat.pow base fraction.length⟩ power exponent)

/-- What may follow the letters of a literal for no number. -/
def isNoNumberTail : List Char → Bool
  | [] => true
  | '(' :: rest =>
    match rest.reverse with
    | ')' :: inner => inner.all fun c => c.isAlphanum || c == '_'
    | _ => false
  | _ => false

/-- A number without sign. -/
def magnitude? (s : List Char) : Option RealLiteral :=
  match s.map Char.toLower with
  | ['i', 'n', 'f'] | ['i', 'n', 'f', 'i', 'n', 'i', 't', 'y'] => some .infinite
  | 'n' :: 'a' :: 'n' :: tail => if isNoNumberTail tail then some .noNumber else none
  | '0' :: 'x' :: digits => (pointed? 16 2 isHexDigit 'p' digits).map .finite
  | s => (pointed? 10 10 Char.isDigit 'e' s).map .finite

/-- The settled form of a number with a point: as many digits as tell the numbers of its format
apart. -/
def real? (format : BinaryFormat) (count : Nat) (s : List Char) : Option (List Char) :=
  if s.isEmpty then some ['0']
  else
    let (negative, rest) := signOf (s.dropWhile isLeadingBlank)
    let signed (body : List Char) := if negative then '-' :: body else body
    match magnitude? rest with
    | none => none
    | some .infinite => some (signed ['i', 'n', 'f'])
    | some .noNumber => some ['n', 'a', 'n']
    | some (.finite x) => (format.round? x).map fun x => signed (x.general count)

/-! ### Bytes -/

/-- The byte that a letter stands for behind a backslash. -/
def simpleEscape? : Char → Option UInt8
  | 'a' => some 7
  | 'b' => some 8
  | 'f' => some 12
  | 'n' => some 10
  | 'r' => some 13
  | 't' => some 9
  | 'v' => some 11
  | '\\' => some 92
  | '\x27' => some 39
  | '\x22' => some 34
  | '?' => some 63
  | _ => none

def charOfByte (b : UInt8) : Char := Char.ofNat b.toNat

/-- The byte that an escape denotes, and how many bytes it takes behind the backslash. -/
def escape (s : List Char) : Except LiteralError (UInt8 × Nat) :=
  match s with
  | [] => .error .unfinishedEscape
  | c :: rest =>
    match simpleEscape? c with
    | some b => .ok (b, 1)
    | none =>
      if c = 'x' ∨ c = 'X' then
        let digits := rest.takeWhile isHexDigit
        let n := digitsValue 16 digits % 0x100000000
        if digits.isEmpty then .error .emptyHexEscape
        else if 255 < n then .error .wideHexEscape
        else .ok (UInt8.ofNat n, 1 + digits.length)
      else if isOctalDigit c then
        let digits := (s.take 3).takeWhile isOctalDigit
        .ok (UInt8.ofNat (digitsValue 8 digits), digits.length)
      else .error (.unknownEscape c)

/-- The bytes that a literal denotes; the fuel bounds their number. -/
def unescaped : (fuel : Nat) → List UInt8 → Except LiteralError (List UInt8)
  | 0, _ => .ok []
  | _, [] => .ok []
  | fuel + 1, b :: rest =>
    if b = 92 then do
      let (b, count) ← escape (rest.map charOfByte)
      return b :: (← unescaped fuel (rest.drop count))
    else do return b :: (← unescaped fuel rest)

/-- The letter that a byte is written with behind a backslash. -/
def escapeLetter? : UInt8 → Option UInt8
  | 10 => some 110
  | 13 => some 114
  | 9 => some 116
  | 92 => some 92
  | 39 => some 39
  | 34 => some 34
  | _ => none

/-- A byte of a literal in its settled form: what is not printable is written by number. -/
def settledByte (b : UInt8) : List UInt8 :=
  match escapeLetter? b with
  | some letter => [92, letter]
  | none =>
    if 0x20 ≤ b ∧ b ≤ 0x7F then [b]
    else [92, 48 + b / 64, 48 + b / 8 % 8, 48 + b % 8]

/-! ### By kind -/

/-- How many bytes the literal of a number may have. -/
def longestNumber : Nat := 62

/-- The literal of a number by the characters that count, or the fault of one that is too long. -/
def numberText (t : Raw) : Except LiteralError (List Char) :=
  let bytes := t.toBytes
  if longestNumber < bytes.length then .error .tooLong
  else .ok ((bytes.takeWhile (· != 0)).map charOfByte)

def settledNumber (t : Raw) (read : List Char → Option (List Char)) : Except LiteralError Raw := do
  match read (← numberText t) with
  | some s => return .text (String.ofList s)
  | none => throw .invalid

def wholeText (n : Int) : List Char := (toString n).toList

/-- The settled form of a default of a kind; that of an enum is one of its constants. -/
def settledDefault (kind : Kind) (enum : Option EnumDecl) (t : Raw) : Except LiteralError Raw :=
  match kind with
  | .int32 | .sint32 | .sfixed32 => settledNumber t fun s => (signed? 32 s).map wholeText
  | .int64 | .sint64 | .sfixed64 => settledNumber t fun s => (signed? 64 s).map wholeText
  | .uint32 | .fixed32 => settledNumber t fun s => (unsigned? 32 s).map wholeText
  | .uint64 | .fixed64 => settledNumber t fun s => (unsigned? 64 s).map wholeText
  | .double => settledNumber t (real? .double 17)
  | .float => settledNumber t (real? .single 9)
  | .bool => if t = .text "true" ∨ t = .text "false" then .ok t else .error .invalid
  | .string | .group | .message => .ok t
  | .bytes => do
    let bytes := t.toBytes
    return .ofBytes ((← unescaped bytes.length bytes).flatMap settledByte)
  | .enum =>
    match (enum.map (·.values)).getD [] |>.find? fun v => Raw.text v.name == t with
    | none => .error .invalid
    | some v =>
      let named := ((enum.map (·.values)).getD []).find? fun w => w.number == v.number
      .ok (.text ((named.map (·.name)).getD v.name))

end RpcBindings.Schema
