/-! The wire format of messages: a row of fields, each with a number and a payload in one of a few
forms. Numbers are written in groups of seven bits, the lowest first. What a field means is not
known here. -/
namespace RpcBindings.Wire

inductive Payload where
  | varint (n : Nat)
  | bytes (b : List UInt8)
  /-- Four or eight bytes. -/
  | fixed (b : List UInt8)
  /-- Fields of its own, which are kept as they are written in order. -/
  | group (b : List UInt8)
  deriving DecidableEq, Repr

structure Field where
  number : Nat
  payload : Payload
  deriving DecidableEq, Repr

def Payload.form : Payload → Nat
  | varint _ => 0
  | bytes _ => 2
  | fixed b => if b.length = 8 then 1 else 5
  | group _ => 3

def Field.tag (f : Field) : Nat := f.number * 8 + f.payload.form

/-- Fields in the order of their tags; those of one tag keep their order. -/
def sorted (fields : List Field) : List Field := fields.mergeSort fun f g => f.tag ≤ g.tag

/-! ### Writing -/

/-- A number in groups of seven bits; the fuel bounds the groups. -/
def writeVarint : (fuel : Nat) → Nat → List UInt8
  | 0, _ => []
  | fuel + 1, n =>
    if n < 0x80 then [UInt8.ofNat n]
    else UInt8.ofNat (n % 0x80 + 0x80) :: writeVarint fuel (n / 0x80)

def writeNumber (n : Nat) : List UInt8 := writeVarint 10 (n % 0x10000000000000000)

def Payload.written (number : Nat) : Payload → List UInt8
  | varint n => writeNumber n
  | bytes b => writeNumber b.length ++ b
  | fixed b => b
  | group b => b ++ writeNumber (number * 8 + 4)

def Field.written (f : Field) : List UInt8 := writeNumber f.tag ++ f.payload.written f.number

/-! ### Reading -/

/-- A number of at most `limit` bytes, and the bytes behind it. -/
def readVarint : (limit : Nat) → List UInt8 → Option (Nat × List UInt8)
  | 0, _ => none
  | _, [] => none
  | limit + 1, b :: rest =>
    if b < 0x80 then some (b.toNat, rest)
    else do
      let (high, rest) ← readVarint limit rest
      return (b.toNat - 0x80 + 0x80 * high, rest)

def readNumber (s : List UInt8) : Option (Nat × List UInt8) := do
  let (n, rest) ← readVarint 10 s
  return (n % 0x10000000000000000, rest)

/-- The number and form of a field, which fit into 32 bits. -/
def readTag (s : List UInt8) : Option (Nat × Nat × List UInt8) := do
  let (tag, rest) ← readVarint 5 s
  if tag < 0x100000000 ∧ 8 ≤ tag then return (tag / 8, tag % 8, rest) else none

/-- The first `n` bytes and those behind them. -/
def take? (n : Nat) (s : List UInt8) : Option (List UInt8 × List UInt8) :=
  if n ≤ s.length then some (s.take n, s.drop n) else none

/-- Bytes with their number before them. -/
def readBytes (s : List UInt8) : Option (List UInt8 × List UInt8) := do
  let (size, rest) ← readNumber s
  if size < 0x80000000 then take? size rest else none

/-- The fields up to the end of the bytes, or of the group that is open. Groups are nested at most
`depth` deep; the fuel bounds the number of fields. -/
def readFields : (fuel depth : Nat) → (group : Option Nat) → List UInt8 →
    Option (List Field × List UInt8)
  | 0, _, _, _ => none
  | _, _, none, [] => some ([], [])
  | _, _, some _, [] => none
  | fuel + 1, depth, group, s => do
    let (number, form, rest) ← readTag s
    let more (payload : Payload) (rest : List UInt8) : Option (List Field × List UInt8) := do
      let (fields, rest) ← readFields fuel depth group rest
      return (⟨number, payload⟩ :: fields, rest)
    match form with
    | 0 => do
      let (n, rest) ← readNumber rest
      more (.varint n) rest
    | 1 => do
      let (b, rest) ← take? 8 rest
      more (.fixed b) rest
    | 2 => do
      let (b, rest) ← readBytes rest
      more (.bytes b) rest
    | 3 =>
      if depth = 0 then none
      else do
        let (inner, rest) ← readFields fuel (depth - 1) (some number) rest
        more (.group ((sorted inner).flatMap Field.written)) rest
    | 4 => if group = some number then some ([], rest) else none
    | 5 => do
      let (b, rest) ← take? 4 rest
      more (.fixed b) rest
    | _ => none

def fieldsOf (depth : Nat) (s : List UInt8) : Option (List Field) :=
  (readFields (s.length + 1) depth none s).map (·.1)

/-- A row of numbers up to the end of the bytes; the fuel bounds how many there are. -/
def readRow : (fuel : Nat) → List UInt8 → Option (List Nat)
  | _, [] => some []
  | 0, _ => none
  | fuel + 1, s => do
    let (n, rest) ← readNumber s
    return n :: (← readRow fuel rest)

end RpcBindings.Wire
