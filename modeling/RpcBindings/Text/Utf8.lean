import RpcBindings.Text.Quoted

/-! Bytes read as UTF-8. A fault names the bytes that cannot be read: the longest start of a
character that something could still follow, then the reason why it does not. -/
namespace RpcBindings.Text

inductive Utf8Cause where
  /-- No character starts with the byte. -/
  | invalidStart
  /-- A byte that should continue the character does not. -/
  | invalidContinuation
  /-- The text ends inside a character. -/
  | unexpectedEnd
  deriving DecidableEq, Repr

/-- The bytes at fault: their position, how many they are, and the first of them. -/
structure Utf8Fault where
  cause : Utf8Cause
  position : Nat
  count : Nat
  byte : UInt8
  deriving DecidableEq, Repr

def Utf8Cause.message : Utf8Cause → String
  | invalidStart => "invalid start byte"
  | invalidContinuation => "invalid continuation byte"
  | unexpectedEnd => "unexpected end of data"

def Utf8Fault.message (f : Utf8Fault) : String :=
  let place :=
    if f.count = 1 then
      s!"byte 0x" ++ String.ofList (hexDigits 2 f.byte.toNat) ++ s!" in position {f.position}"
    else s!"bytes in position {f.position}-{f.position + f.count - 1}"
  "'utf-8' codec can't decode " ++ place ++ ": " ++ f.cause.message

def isContinuation (b : UInt8) : Bool := 0x80 ≤ b && b < 0xC0

/-- The second byte of a character of three bytes: some first bytes allow only half of them. -/
def isSecondOfThree (a b : UInt8) : Bool :=
  isContinuation b && !(a == 0xE0 && b < 0xA0) && !(a == 0xED && 0xA0 ≤ b)

def isSecondOfFour (a b : UInt8) : Bool :=
  isContinuation b && !(a == 0xF0 && b < 0x90) && !(a == 0xF4 && 0x90 ≤ b)

def sixBits (b : UInt8) : Nat := b.toNat % 0x40

def decodeUtf8From (position : Nat) : List UInt8 → Except Utf8Fault (List Char)
  | [] => .ok []
  | a :: rest =>
    let fault (cause : Utf8Cause) (count : Nat) : Except Utf8Fault (List Char) :=
      .error ⟨cause, position, count, a⟩
    if a < 0x80 then do return Char.ofNat a.toNat :: (← decodeUtf8From (position + 1) rest)
    else if a < 0xC2 then fault .invalidStart 1
    else if a < 0xE0 then
      match rest with
      | [] => fault .unexpectedEnd 1
      | b :: rest =>
        if isContinuation b then do
          return Char.ofNat (a.toNat % 0x20 * 0x40 + sixBits b) ::
            (← decodeUtf8From (position + 2) rest)
        else fault .invalidContinuation 1
    else if a < 0xF0 then
      match rest with
      | [] => fault .unexpectedEnd 1
      | b :: rest =>
        if !isSecondOfThree a b then fault .invalidContinuation 1
        else match rest with
          | [] => fault .unexpectedEnd 2
          | c :: rest =>
            if isContinuation c then do
              return Char.ofNat ((a.toNat % 0x10 * 0x40 + sixBits b) * 0x40 + sixBits c) ::
                (← decodeUtf8From (position + 3) rest)
            else fault .invalidContinuation 2
    else if a < 0xF5 then
      match rest with
      | [] => fault .unexpectedEnd 1
      | b :: rest =>
        if !isSecondOfFour a b then fault .invalidContinuation 1
        else match rest with
          | [] => fault .unexpectedEnd 2
          | c :: rest =>
            if !isContinuation c then fault .invalidContinuation 2
            else match rest with
              | [] => fault .unexpectedEnd 3
              | d :: rest =>
                if isContinuation d then do
                  return Char.ofNat
                      (((a.toNat % 8 * 0x40 + sixBits b) * 0x40 + sixBits c) * 0x40 + sixBits d) ::
                    (← decodeUtf8From (position + 4) rest)
                else fault .invalidContinuation 3
    else fault .invalidStart 1

def decodeUtf8 (bytes : List UInt8) : Except Utf8Fault (List Char) := decodeUtf8From 0 bytes

end RpcBindings.Text
