import RpcBindings.Decimal.Shortest

/-! Rounding: a fraction to the nearest binary number of a format, and a fraction to a fixed number
of decimal digits. All the arithmetic is exact. -/
namespace RpcBindings.Decimal

/-- The quotient nearest to `num / den`; of two equally near the even one. -/
def roundedDiv (num den : Nat) : Nat :=
  let q := num / den
  let r := num % den
  if 2 * r < den ∨ (2 * r = den ∧ q % 2 = 0) then q else q + 1

/-- A format of binary numbers: how many digits they have, and the exponents of the last digit. -/
structure BinaryFormat where
  digits : Nat
  lowest : Int
  highest : Int
  deriving DecidableEq, Repr

def BinaryFormat.double : BinaryFormat := ⟨53, -1074, 971⟩

def BinaryFormat.single : BinaryFormat := ⟨24, -149, 104⟩

structure Fraction where
  num : Nat
  den : Nat
  deriving DecidableEq, Repr

def Fraction.scaled (n : Nat) (exponent : Int) : Fraction :=
  ⟨n * Nat.pow 2 exponent.toNat, Nat.pow 2 (-exponent).toNat⟩

/-- The exponent of the greatest power of two that is no greater than a positive fraction. -/
def Fraction.magnitude (x : Fraction) : Int :=
  let guess : Int := (Nat.log2 x.num : Int) - Nat.log2 x.den
  let power := Fraction.scaled 1 guess
  if power.num * x.den ≤ x.num * power.den then guess else guess - 1

/-- The number of a format nearest to a fraction. There is none if it is too great, or if it is so
small that digits get lost. -/
def BinaryFormat.round? (f : BinaryFormat) (x : Fraction) : Option Fraction :=
  if x.num = 0 then some ⟨0, 1⟩
  else
    let exponent := max (x.magnitude - (f.digits - 1)) f.lowest
    let num := x.num * Nat.pow 2 (-exponent).toNat
    let den := x.den * Nat.pow 2 exponent.toNat
    let mantissa := roundedDiv num den
    let tooGreat := f.highest < exponent ∨ (exponent = f.highest ∧ mantissa = Nat.pow 2 f.digits)
    let lost := mantissa < Nat.pow 2 (f.digits - 1) ∧ num % den ≠ 0
    if tooGreat ∨ lost then none else some (.scaled mantissa exponent)

/-- The position of the point before the first digit of a positive fraction. -/
def Fraction.point (x : Fraction) : Int :=
  if x.den ≤ x.num then magnitudeUp x.num x.den 400 0
  else -(magnitudeDown x.num x.den 400 0 : Int)

/-- A positive fraction with a number of significant digits. -/
def Fraction.rounded (count : Nat) (x : Fraction) : Digits :=
  let scale := x.point - count
  let n := roundedDiv (x.num * Nat.pow 10 (-scale).toNat) (x.den * Nat.pow 10 scale.toNat)
  ⟨significant n, (Nat.toDigits 10 n).length + scale⟩

/-- The text of digits: positional while the point lies at most four places before the first digit
and not behind the place `count`, else with an exponent of two digits or more. -/
def Digits.general (count : Nat) (d : Digits) : List Char :=
  let exponent := d.point - 1
  let size : Int := d.digits.length
  if -4 ≤ exponent ∧ exponent < count then
    if d.point ≤ 0 then ['0', '.'] ++ List.replicate (-d.point).toNat '0' ++ d.digits
    else if d.point < size then
      d.digits.take d.point.toNat ++ '.' :: d.digits.drop d.point.toNat
    else d.digits ++ List.replicate (d.point - size).toNat '0'
  else
    let digits := Nat.toDigits 10 exponent.natAbs
    let mantissa := match d.digits with
      | c :: second :: more => c :: '.' :: second :: more
      | digits => digits
    mantissa ++ 'e' :: (if exponent < 0 then '-' else '+') ::
      (List.replicate (2 - digits.length) '0' ++ digits)

/-- The text of a fraction with a number of significant digits, without zeros at the end. -/
def Fraction.general (count : Nat) (x : Fraction) : List Char :=
  if x.num = 0 then ['0'] else (x.rounded count).general count

end RpcBindings.Decimal
