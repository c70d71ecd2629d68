import RpcBindings.Text.Raw
import RpcBindings.Wire.Field
import RpcBindings.Wire.Layout

/-! What messages hold: the fields of their layout, each read as what it is, and those that the
layout does not know. Two messages are the same if their contents are equal: of a field that occurs
once the last value counts, its messages are put together, and the fields of a layout stand in the
order of their declaration. -/
namespace RpcBindings.Wire

inductive Content where
  | empty
  | number (field : Nat) (n : Int) (rest : Content)
  | bytes (field : Nat) (b : List UInt8) (rest : Content)
  | message (field : Nat) (inner rest : Content)
  /-- A field that the layout does not know. -/
  | strange (field : Field) (rest : Content)
  deriving DecidableEq, Repr

namespace Content

instance : Inhabited Content := ⟨empty⟩

/-! ### Parts -/

def numbers (field : Nat) : Content → List Int
  | empty => []
  | number k n rest => if k = field then n :: rest.numbers field else rest.numbers field
  | bytes _ _ rest | message _ _ rest | strange _ rest => rest.numbers field

def texts (field : Nat) : Content → List Text.Raw
  | empty => []
  | bytes k b rest =>
    if k = field then .ofBytes b :: rest.texts field else rest.texts field
  | number _ _ rest | message _ _ rest | strange _ rest => rest.texts field

def messages (field : Nat) : Content → List Content
  | empty => []
  | message k inner rest =>
    if k = field then inner :: rest.messages field else rest.messages field
  | number _ _ rest | bytes _ _ rest | strange _ rest => rest.messages field

def number? (c : Content) (field : Nat) : Option Int := (c.numbers field).head?

def text? (c : Content) (field : Nat) : Option Text.Raw := (c.texts field).head?

def message? (c : Content) (field : Nat) : Option Content := (c.messages field).head?

def isSet (c : Content) (field : Nat) : Bool := c.number? field == some 1

/-- Whether there is a field that the layout does not know. -/
def hasStrange : Content → Bool
  | empty => false
  | number _ _ rest | bytes _ _ rest | message _ _ rest => rest.hasStrange
  | strange _ _ => true

def has (c : Content) (field : Nat) : Bool :=
  !(c.numbers field).isEmpty || !(c.texts field).isEmpty || !(c.messages field).isEmpty

/-! ### Writing -/

/-- The eight bytes of a number, the lowest first. -/
def eightBytes (n : Nat) : List UInt8 :=
  (List.range 8).map fun i => UInt8.ofNat (n / Nat.pow 256 i % 256)

def innerType (type : MessageType) (field : Nat) : MessageType :=
  match type.field? field with
  | some ⟨_, _, .message inner, _⟩ => inner
  | _ => type

def written (type : MessageType) : Content → List UInt8
  | empty => []
  | number field n rest =>
    let bits := (n % 0x10000000000000000).toNat
    let payload : Payload :=
      if (type.field? field).any (·.form == .double) then .fixed (eightBytes bits) else .varint bits
    Field.written ⟨field, payload⟩ ++ rest.written type
  | bytes field b rest => Field.written ⟨field, .bytes b⟩ ++ rest.written type
  | message field inner rest =>
    Field.written ⟨field, .bytes (inner.written (innerType type field))⟩ ++ rest.written type
  | strange field rest => field.written ++ rest.written type

end Content

/-! ### Reading -/

def Content.withNumbers (field : Nat) (values : List Int) (rest : Content) : Content :=
  values.foldr (fun n rest => .number field n rest) rest

def Content.withBytes (field : Nat) (values : List (List UInt8)) (rest : Content) : Content :=
  values.foldr (fun b rest => .bytes field b rest) rest

/-- Messages of a field in front of further content. -/
def Content.withMessages (field : Nat) (values : List Content) (rest : Content) : Content :=
  values.foldr (fun c rest => .message field c rest) rest

/-- A number of 64 bits as a signed one of 32 bits. -/
def signed32 (n : Nat) : Int := (n : Int).bmod 0x100000000

/-- The number that a field of some form takes from 64 bits; a choice has to be one of its own. -/
def Form.number? : Form → Nat → Option Int
  | int32, n => some (signed32 n)
  | int64, n => some ((n : Int).bmod 0x10000000000000000)
  | uint64, n => some n
  | bool, n => some (if n = 0 then 0 else 1)
  | choice names, n =>
    if names.any (·.2 == signed32 n) then some (signed32 n) else none
  | _, _ => none

/-- Whether a form holds numbers that are written in groups of seven bits. -/
def Form.isNumeric : Form → Bool
  | int32 | int64 | uint64 | bool | choice _ => true
  | _ => false

/-- Whether a payload can be that of a field: a repeated number may also come as a row of them. -/
def FieldLayout.fits (l : FieldLayout) : Payload → Bool
  | .varint _ => l.form.isNumeric
  | .fixed b => l.form == .double && b.length == 8
  | .bytes _ =>
    match l.form with
    | .text | .bytes | .message _ => true
    | form => form.isNumeric && l.occurrence == .repeated
  | .group _ => false

/-- The number in eight bytes, the lowest first. -/
def ofEightBytes (b : List UInt8) : Nat := b.foldr (fun b n => b.toNat + 256 * n) 0

def rawNumbers : Payload → Option (List Nat)
  | .varint n => some [n]
  | .fixed b => some [ofEightBytes b]
  | .bytes b => readRow b.length b
  | .group _ => some []

def rawBytes (fields : List Field) : List (List UInt8) :=
  fields.filterMap fun f =>
    match f.payload with
    | .bytes b => some b
    | _ => none

/-- The values that count: all of a repeated field, of another one the last. -/
def FieldLayout.counting {α : Type} (l : FieldLayout) (values : List α) : List α :=
  if l.occurrence = .repeated then values else values.getLast?.toList

/-- Puts the content of a field in front of further content, its messages being read by `inner`.
Messages of a field that occurs once are put together. -/
def FieldLayout.read (l : FieldLayout) (inner : MessageType → List UInt8 → Option Content)
    (fields : List Field) (rest : Content) : Option Content := do
  let own := fields.filter fun f => f.number == l.number && l.fits f.payload
  match l.form with
  | .text | .bytes => return .withBytes l.number (l.counting (rawBytes own)) rest
  | .double =>
    let numbers := (← own.mapM fun f => rawNumbers f.payload).flatten
    return .withNumbers l.number (l.counting (numbers.map Int.ofNat)) rest
  | .message type =>
    let contents ← (rawBytes own).mapM (inner type)
    if l.occurrence = .repeated ∨ contents.length < 2 then
      return .withMessages l.number contents rest
    else return .withMessages l.number [← inner type (rawBytes own).flatten] rest
  | form =>
    let numbers := (← own.mapM fun f => rawNumbers f.payload).flatten
    return .withNumbers l.number (l.counting (numbers.filterMap form.number?)) rest

/-- What of a field its layout does not know: the field itself, or numbers that are no choice. -/
def strangeParts (layouts : List FieldLayout) (f : Field) : List Field :=
  match layouts.find? fun l => l.number == f.number && l.fits f.payload with
  | none => [f]
  | some l =>
    if l.form.isNumeric then
      (((rawNumbers f.payload).getD []).filter fun n => (l.form.number? n).isNone).map fun n =>
        ⟨f.number, .varint (n % 0x100000000)⟩
    else []

/-- Reads a message of a type, the messages in it being read by `inner`. -/
def readWith (depth : Nat) (inner : MessageType → List UInt8 → Option Content)
    (type : MessageType) (s : List UInt8) : Option Content := do
  let fields ← fieldsOf depth s
  let strange := sorted (fields.flatMap (strangeParts type.fields))
  type.fields.foldrM (fun l rest => l.read inner fields rest)
    (strange.foldr (fun f rest => .strange f rest) .empty)

/-- Reads a message of a type in which messages and groups are nested at most `depth` deep. -/
def Content.readNested : (depth : Nat) → MessageType → List UInt8 → Option Content
  | 0 => readWith 0 fun _ _ => none
  | depth + 1 => readWith (depth + 1) (Content.readNested depth)

/-- How deep messages and groups may be nested. -/
def deepest : Nat := 100

def Content.read (type : MessageType) (s : List UInt8) : Option Content :=
  Content.readNested deepest type s

/-! ### Missing fields -/

/-- The names of the fields that a message of a type must have and lacks. -/
def Content.lacking (type : MessageType) (c : Content) : List String :=
  (type.fields.filter fun l => l.occurrence == .required && !c.has l.number).map (·.name)

/-- The paths to what the messages inside a message lack, from the one on that has the given place
in its field. -/
def Content.lackingWithin (type : MessageType) (before place : Nat) : Content → List String
  | empty => []
  | number _ _ rest | bytes _ _ rest | strange _ rest => rest.lackingWithin type before place
  | message field inner rest =>
    let place := if field = before then place + 1 else 0
    let innerType := innerType type field
    let name := match type.field? field with
      | some ⟨_, name, _, .repeated⟩ => s!"{name}[{place}]"
      | some l => l.name
      | none => ""
    (inner.lacking innerType ++ inner.lackingWithin innerType 0 0).map (name ++ "." ++ ·) ++
      rest.lackingWithin type field place

/-- The paths to the fields that a message and those inside it must have and lack. -/
def Content.missing (type : MessageType) (c : Content) : List String :=
  c.lacking type ++ c.lackingWithin type 0 0

end RpcBindings.Wire
