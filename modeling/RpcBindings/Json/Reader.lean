import RpcBindings.Entries
import RpcBindings.Text.Escapes
import RpcBindings.Value

/-! JSON documents. A fault carries the offset at which reading stopped, counted in characters, and
its line and column. Besides the standard, `NaN`, `Infinity` and `-Infinity` are numbers, a string
may hold a surrogate without its other half, and a key that is repeated keeps its first place and
takes its last value. There are limits to how deep values nest and to how long whole numbers are. -/
namespace RpcBindings.Json

inductive Cause where
  | expectingValue
  | expectingKey
  | expectingColon
  | expectingComma
  | extraData
  | unterminatedString
  | controlCharacter
  | badEscape
  | badUnicodeEscape
  | byteOrderMark
  deriving DecidableEq, Repr

def Cause.message : Cause → String
  | expectingValue => "Expecting value"
  | expectingKey => "Expecting property name enclosed in double quotes"
  | expectingColon => "Expecting ':' delimiter"
  | expectingComma => "Expecting ',' delimiter"
  | extraData => "Extra data"
  | unterminatedString => "Unterminated string starting at"
  | controlCharacter => "Invalid control character at"
  | badEscape => "Invalid \\escape"
  | badUnicodeEscape => "Invalid \\uXXXX escape"
  | byteOrderMark => "Unexpected UTF-8 BOM (decode using utf-8-sig)"

inductive Limit where
  /-- An array or an object nested too deep. -/
  | nesting (isObject : Bool)
  /-- A whole number of too many digits. -/
  | digits (count : Nat)
  deriving DecidableEq, Repr

def deepest : Nat := 987

def longestNumeral : Nat := 4300

def Limit.message : Limit → String
  | nesting isObject =>
    "maximum recursion depth exceeded while decoding a JSON " ++
      (if isObject then "object" else "array") ++ " from a unicode string"
  | digits count =>
    s!"Exceeds the limit ({longestNumeral} digits) for integer string conversion: " ++
      s!"value has {count} digits; use sys.set_int_max_str_digits() to increase the limit"

/-- Why reading stops: a reason and the offset it applies to, or a limit. -/
inductive Fault where
  | at (cause : Cause) (offset : Nat)
  | beyond (limit : Limit)
  deriving DecidableEq, Repr

/-- A reason with its place in the document: line and column, counted from one. -/
structure Located where
  cause : Cause
  offset : Nat
  line : Nat
  column : Nat
  deriving DecidableEq, Repr

def locate (cause : Cause) (offset : Nat) (document : List Char) : Located :=
  let before := document.take offset
  { cause := cause
    offset := offset
    line := before.count '\n' + 1
    column := (before.reverse.takeWhile (· != '\n')).length + 1 }

def Located.message (f : Located) : String :=
  s!"{f.cause.message}: line {f.line} column {f.column} (char {f.offset})"

inductive Failure where
  | malformed (reason : Located)
  | beyond (limit : Limit)
  deriving DecidableEq, Repr

def Failure.message : Failure → String
  | malformed reason => reason.message
  | beyond limit => limit.message

/-- What is left of a document, and where it begins. -/
structure Cursor where
  offset : Nat
  rest : List Char

def Cursor.advance (c : Cursor) (count : Nat) : Cursor := ⟨c.offset + count, c.rest.drop count⟩

def isSpace (c : Char) : Bool := c == ' ' || c == '\t' || c == '\n' || c == '\r'

/-- The cursor at the next character that is no blank. -/
def Cursor.skipSpace (c : Cursor) : Cursor := c.advance (c.rest.takeWhile isSpace).length

def Cursor.fail {α : Type} (c : Cursor) (cause : Cause) : Except Fault α :=
  .error (.at cause c.offset)

/-- The number that four hexadecimal digits at the head of a text denote, if more text follows. -/
def fourHex? : List Char → Option Nat
  | a :: b :: c :: d :: _ :: _ => Text.hexNumber? [a, b, c, d]
  | _ => none

/-- The low half of a surrogate pair, if an escape that denotes one heads the text. -/
def lowSurrogate? : List Char → Option Nat
  | '\\' :: 'u' :: rest =>
    match fourHex? rest with
    | some low => if 0xDC00 ≤ low ∧ low < 0xE000 then some low else none
    | none => none
  | _ => none

/-- Whether a text begins like a second escape that is long enough to be read and is none. -/
def brokenSecondEscape : List Char → Bool
  | '\\' :: 'u' :: a :: b :: c :: d :: _ :: _ =>
    (Text.hexNumber? [a, b, c, d]).isNone
  | _ => false

/-- The character that a one-letter escape denotes. -/
def simpleEscape? : Char → Option Char
  | '\x22' => some '\x22'
  | '\\' => some '\\'
  | '/' => some '/'
  | 'b' => some '\x08'
  | 'f' => some '\x0c'
  | 'n' => some '\n'
  | 'r' => some '\r'
  | 't' => some '\t'
  | _ => none

/-- Reads the code points of a string whose opening quote stands at `start`; the fuel bounds their
number. -/
def readCodes (start : Nat) : (fuel : Nat) → Cursor → Except Fault (List Nat × Cursor)
  | 0, _ => .error (.at .unterminatedString start)
  | fuel + 1, cursor =>
    match cursor.rest with
    | [] => .error (.at .unterminatedString start)
    | '\x22' :: _ => .ok ([], cursor.advance 1)
    | '\\' :: [] => .error (.at .unterminatedString start)
    | '\\' :: 'u' :: digits =>
      match fourHex? digits with
      | none => .error (.at .badUnicodeEscape (cursor.offset + 1))
      | some code =>
        let after := digits.drop 4
        if 0xD800 ≤ code ∧ code < 0xDC00 then
          if brokenSecondEscape after then .error (.at .badUnicodeEscape (cursor.offset + 7))
          else match lowSurrogate? after with
            | some low => do
              let code := 0x10000 + (code - 0xD800) * 0x400 + (low - 0xDC00)
              let (more, done) ← readCodes start fuel (cursor.advance 12)
              return (code :: more, done)
            | none => do
              let (more, done) ← readCodes start fuel (cursor.advance 6)
              return (code :: more, done)
        else do
          let (more, done) ← readCodes start fuel (cursor.advance 6)
          return (code :: more, done)
    | '\\' :: letter :: _ =>
      match simpleEscape? letter with
      | none => cursor.fail .badEscape
      | some c => do
        let (more, done) ← readCodes start fuel (cursor.advance 2)
        return (c.toNat :: more, done)
    | c :: _ =>
      if c.toNat < 0x20 then cursor.fail .controlCharacter
      else do
        let (more, done) ← readCodes start fuel (cursor.advance 1)
        return (c.toNat :: more, done)

def readString (cursor : Cursor) : Except Fault (Text.CodePoints × Cursor) := do
  let (codes, done) ← readCodes cursor.offset cursor.rest.length (cursor.advance 1)
  return (.ofCodes codes, done)

def digitsOf (s : List Char) : List Char := s.takeWhile Char.isDigit

def natOf (digits : List Char) : Nat :=
  digits.foldl (fun n c => n * 10 + (c.toNat - '0'.toNat)) 0

/-- The part of a number behind its whole part: a point with digits and an exponent with digits,
each only if complete. -/
structure NumberTail where
  fraction : List Char
  exponent : Option (Bool × List Char)
  length : Nat

/-- An exponent at the head of a text, and its length. -/
def exponentOf : List Char → Option (Bool × List Char) × Nat
  | mark :: rest =>
    if mark = 'e' ∨ mark = 'E' then
      let (negative, signs, digits) := match rest with
        | '-' :: more => (true, 1, digitsOf more)
        | '+' :: more => (false, 1, digitsOf more)
        | _ => (false, 0, digitsOf rest)
      if digits.isEmpty then (none, 0) else (some (negative, digits), 1 + signs + digits.length)
    else (none, 0)
  | [] => (none, 0)

def numberTail (s : List Char) : NumberTail :=
  let fraction := match s with
    | '.' :: rest => digitsOf rest
    | _ => []
  let taken := if fraction.isEmpty then 0 else fraction.length + 1
  let (exponent, length) := exponentOf (s.drop taken)
  ⟨fraction, exponent, taken + length⟩

/-- The floating-point number with given digits and decimal exponent, rounded to nearest; exponents
far out of range give infinity or zero. -/
def realOf (negative : Bool) (digits : List Char) (exponent : Int) : Float :=
  let mantissa := natOf digits
  let size : Int := (digits.dropWhile (· == '0')).length + exponent
  let magnitude :=
    if mantissa = 0 ∨ size < -400 then 0.0
    else if 400 < size then 1.0 / 0.0
    else Float.ofScientific mantissa (exponent < 0) exponent.natAbs
  if negative then -magnitude else magnitude

def readNumber (cursor : Cursor) : Except Fault (Value × Cursor) :=
  let negative := cursor.rest.head? == some '-'
  let body := if negative then cursor.rest.drop 1 else cursor.rest
  let whole := match body with
    | '0' :: _ => ['0']
    | _ => digitsOf body
  if whole.isEmpty then cursor.fail .expectingValue
  else
    let tail := numberTail (body.drop whole.length)
    let done := cursor.advance ((if negative then 1 else 0) + whole.length + tail.length)
    if tail.length = 0 then
      if longestNumeral < whole.length then .error (.beyond (.digits whole.length))
      else
        let n : Int := natOf whole
        .ok (.int (if negative then -n else n), done)
    else
      let shift : Int := match tail.exponent with
        | some (minus, digits) => if minus then -(natOf digits : Int) else natOf digits
        | none => 0
      .ok (.real (realOf negative (whole ++ tail.fraction) (shift - tail.fraction.length)), done)

def keywords : List (List Char × Value) := [
  ("null".toList, .null), ("true".toList, .bool true), ("false".toList, .bool false),
  ("NaN".toList, .real (0.0 / 0.0)), ("Infinity".toList, .real (1.0 / 0.0)),
  ("-Infinity".toList, .real (-1.0 / 0.0))]

mutual

/-- Reads a value at a cursor. The fuel bounds the number of values and separators, and `room` how
deep arrays and objects may still nest. -/
def readValue (room : Nat) : (fuel : Nat) → Cursor → Except Fault (Value × Cursor)
  | 0, cursor => cursor.fail .expectingValue
  | fuel + 1, cursor =>
    match cursor.rest with
    | [] => cursor.fail .expectingValue
    | '\x22' :: _ => do
      let (s, done) ← readString cursor
      return (.text s, done)
    | '\x7b' :: _ =>
      if room = 0 then .error (.beyond (.nesting true))
      else
        let inside := (cursor.advance 1).skipSpace
        match inside.rest with
        | '\x7d' :: _ => .ok (.dict [], inside.advance 1)
        | _ => do
          let (entries, done) ← readMembers (room - 1) fuel [] inside
          return (.dict entries, done)
    | '[' :: _ =>
      if room = 0 then .error (.beyond (.nesting false))
      else
        let inside := (cursor.advance 1).skipSpace
        match inside.rest with
        | ']' :: _ => .ok (.list [], inside.advance 1)
        | _ => do
          let (items, done) ← readItems (room - 1) fuel inside
          return (.list items, done)
    | _ =>
      match keywords.find? (fun word => word.1.isPrefixOf cursor.rest) with
      | some (word, value) => .ok (value, cursor.advance word.length)
      | none => readNumber cursor

/-- Reads the members of an object up to its closing brace. -/
def readMembers (room : Nat) : (fuel : Nat) → List (Text.CodePoints × Value) → Cursor →
    Except Fault (List (Text.CodePoints × Value) × Cursor)
  | 0, _, cursor => cursor.fail .expectingKey
  | fuel + 1, known, cursor =>
    match cursor.rest with
    | '\x22' :: _ => do
      let (key, cursor) ← readString cursor
      let cursor := cursor.skipSpace
      match cursor.rest with
      | ':' :: _ =>
        let (value, cursor) ← readValue room fuel (cursor.advance 1).skipSpace
        let known := putEntry key value known
        let cursor := cursor.skipSpace
        match cursor.rest with
        | '\x7d' :: _ => return (known, cursor.advance 1)
        | ',' :: _ => readMembers room fuel known (cursor.advance 1).skipSpace
        | _ => cursor.fail .expectingComma
      | _ => cursor.fail .expectingColon
    | _ => cursor.fail .expectingKey

/-- Reads the items of an array up to its closing bracket. -/
def readItems (room : Nat) : (fuel : Nat) → Cursor → Except Fault (List Value × Cursor)
  | 0, cursor => cursor.fail .expectingValue
  | fuel + 1, cursor => do
    let (item, cursor) ← readValue room fuel cursor
    let cursor := cursor.skipSpace
    match cursor.rest with
    | ']' :: _ => return ([item], cursor.advance 1)
    | ',' :: _ =>
      let (items, done) ← readItems room fuel (cursor.advance 1).skipSpace
      return (item :: items, done)
    | _ => cursor.fail .expectingComma

end

/-- The value of a whole document, or the fault in it. -/
def readDocument (document : List Char) : Except Fault Value :=
  match document with
  | '\uFEFF' :: _ => .error (.at .byteOrderMark 0)
  | _ => do
    let (value, done) ←
      readValue deepest (2 * document.length + 2) (Cursor.mk 0 document).skipSpace
    let done := done.skipSpace
    if done.rest.isEmpty then return value else done.fail .extraData

def read (document : List Char) : Except Failure Value :=
  match readDocument document with
  | .ok value => .ok value
  | .error (.at cause offset) => .error (.malformed (locate cause offset document))
  | .error (.beyond limit) => .error (.beyond limit)

end RpcBindings.Json
