import RpcBindings.Decimal.Shortest

/-! The text of a floating-point number. -/
namespace RpcBindings.Decimal

/-- The mantissa and exponent of a positive finite number. -/
def binaryOf (x : Float) : Binary :=
  let bits := x.toBits.toNat
  let fraction : Nat := bits % 0x10000000000000
  let biased : Nat := bits / 0x10000000000000 % 0x800
  if biased = 0 then ⟨fraction, -1074, false⟩
  else ⟨0x10000000000000 + fraction, (biased : Int) - 1075, fraction == 0 && biased != 1⟩

/-- The integer that a number is equal to, if there is one. -/
def wholeOf? (x : Float) : Option Int :=
  if x.isNaN || x.isInf then none
  else
    let b := binaryOf x.abs
    let unit := Nat.pow 2 (-b.exponent).toNat
    let magnitude : Int := b.mantissa * Nat.pow 2 b.exponent.toNat / unit
    if b.mantissa % unit = 0 then some (if x < 0 then -magnitude else magnitude) else none

/-- Where numbers are written with a plain point, and how the exponent looks elsewhere: numbers
whose point lies more than three places before the first digit or past the sixteenth have an
exponent of two digits or more. A whole number keeps one zero after the point. -/
def Digits.written (d : Digits) : List Char :=
  let count : Int := d.digits.length
  if -4 < d.point ∧ d.point ≤ 16 then
    if d.point ≤ 0 then ['0', '.'] ++ List.replicate (-d.point).toNat '0' ++ d.digits
    else if d.point < count then
      d.digits.take d.point.toNat ++ '.' :: d.digits.drop d.point.toNat
    else d.digits ++ List.replicate (d.point - count).toNat '0' ++ ['.', '0']
  else
    let exponent := d.point - 1
    let size := Nat.toDigits 10 exponent.natAbs
    let mantissa := match d.digits with
      | [] => []
      | [c] => [c]
      | c :: more => c :: '.' :: more
    mantissa ++ 'e' :: (if exponent < 0 then '-' else '+') ::
      (List.replicate (2 - size.length) '0' ++ size)

/-- The shortest text that reads back as the number. -/
def written (x : Float) : String :=
  if x.isNaN then "nan"
  else
    let negative := x.toBits.toNat / 0x8000000000000000 == 1
    let magnitude := x.abs
    let body :=
      if x.isInf then ['i', 'n', 'f']
      else if magnitude == 0 then ['0', '.', '0']
      else (binaryOf magnitude).shortest.written
    String.ofList (if negative then '-' :: body else body)

end RpcBindings.Decimal
