import RpcBindings.Text.Utf8

/-! Texts as they arrive in binary files: bytes that should be UTF-8. Almost every one is a string;
the others keep their bytes, and are shown with a mark in place of what cannot be read. -/
namespace RpcBindings.Text

/-- Decodes bytes and puts a mark in place of every fault; the fuel bounds the faults. -/
def decodeMarked : (fuel : Nat) → List UInt8 → List Char
  | 0, _ => []
  | fuel + 1, bytes =>
    match decodeUtf8 bytes with
    | .ok s => s
    | .error fault =>
      (decodeUtf8 (bytes.take fault.position)).toOption.getD [] ++
        '\uFFFD' :: decodeMarked fuel (bytes.drop (fault.position + fault.count))

/-- Bytes as a string, with a mark in place of what cannot be read. -/
def marked (bytes : List UInt8) : String :=
  String.ofList (decodeMarked (bytes.length + 1) bytes)

inductive Raw where
  | text (s : String)
  /-- Bytes that are no text. -/
  | bytes (b : List UInt8)
  deriving DecidableEq, Repr

def escapedByte (mark : Char) (b : UInt8) : List Char :=
  let c := Char.ofNat b.toNat
  if 0x80 ≤ b then '\\' :: 'x' :: hexDigits 2 b.toNat else escaped mark c

def quotedBytes (bytes : List UInt8) : List Char :=
  let mark := quoteMark (bytes.map fun b => Char.ofNat b.toNat)
  'b' :: mark :: bytes.flatMap (escapedByte mark) ++ [mark]

namespace Raw

def ofBytes (b : List UInt8) : Raw :=
  match decodeUtf8 b with
  | .ok s => text (String.ofList s)
  | .error _ => bytes b

def toBytes : Raw → List UInt8
  | text s => s.toUTF8.data.toList
  | bytes b => b

def shown : Raw → String
  | text s => s
  | bytes b => marked b

def literal : Raw → String
  | text s => s
  | bytes b => String.ofList (quotedBytes b)

def fault? : Raw → Option Utf8Fault
  | text _ => none
  | bytes b =>
    match decodeUtf8 b with
    | .ok _ => none
    | .error fault => some fault

/-- The part of a text before its first NUL. -/
def beforeNul (t : Raw) : Raw := ofBytes (t.toBytes.takeWhile (· != 0))

instance : Coe String Raw := ⟨text⟩

instance : Inhabited Raw := ⟨text ""⟩

end Raw

end RpcBindings.Text
