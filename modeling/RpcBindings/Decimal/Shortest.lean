/-! The fewest decimal digits that read back as a given binary floating-point number. The number is
taken as `mantissa * 2 ^ exponent`, and all the arithmetic is exact. -/
namespace RpcBindings.Decimal

/-- A positive binary number. Numbers just below a power of two lie closer together than those above
it; `narrow` marks a number whose lower neighbour is at half the distance of the upper one. -/
structure Binary where
  mantissa : Nat
  exponent : Int
  narrow : Bool

/-- Digits and the position of the point: the value is `0.d₁d₂… * 10 ^ point`. -/
structure Digits where
  digits : List Char
  point : Int

/-- Four times the bounds and the value itself, over a common denominator: the reals between the
bounds round to the number. -/
structure Interval where
  low : Nat
  value : Nat
  high : Nat
  denominator : Nat
  closed : Bool

/-- The reals that round to a binary number; the bounds belong to them if the mantissa is even. -/
def Binary.interval (b : Binary) : Interval :=
  let up := Nat.pow 2 b.exponent.toNat
  let down := Nat.pow 2 (-b.exponent).toNat
  { low := (4 * b.mantissa - if b.narrow then 1 else 2) * up
    value := 4 * b.mantissa * up
    high := (4 * b.mantissa + 2) * up
    denominator := 4 * down
    closed := b.mantissa % 2 == 0 }

/-- Whether the decimal `d * 10 ^ scale` rounds to the number. -/
def Interval.contains (i : Interval) (d : Nat) (scale : Int) : Bool :=
  let point := d * Nat.pow 10 scale.toNat * i.denominator
  let unit := Nat.pow 10 (-scale).toNat
  if i.closed then i.low * unit ≤ point && point ≤ i.high * unit
  else i.low * unit < point && point < i.high * unit

/-- The multiple of `10 ^ scale` nearest to the value among the two around it that round to the
number; of two equally near the even one. -/
def Interval.nearest? (i : Interval) (scale : Int) : Option Nat :=
  let unit := i.denominator * Nat.pow 10 scale.toNat
  let scaled := i.value * Nat.pow 10 (-scale).toNat
  let below := scaled / unit
  let rest := scaled % unit
  let above := below + 1
  match i.contains below scale && below != 0, i.contains above scale with
  | true, true =>
    if 2 * rest < unit || (2 * rest == unit && below % 2 == 0) then some below else some above
  | true, false => some below
  | false, true => some above
  | false, false => none

/-- The least `k ≤ bound` with `value < denominator * 10 ^ k`, if `bound` is large enough. -/
def magnitudeUp (value denominator : Nat) : (steps : Nat) → (k : Nat) → Nat
  | 0, k => k
  | steps + 1, k =>
    if value < denominator * Nat.pow 10 k then k else magnitudeUp value denominator steps (k + 1)

/-- How many times a value below `1/10` can be multiplied by ten before it reaches `1/10`. -/
def magnitudeDown (value denominator : Nat) : (steps : Nat) → (k : Nat) → Nat
  | 0, k => k
  | steps + 1, k =>
    if value * Nat.pow 10 (k + 1) < denominator then magnitudeDown value denominator steps (k + 1)
    else k

/-- The position of the point before the first digit of the value. -/
def Interval.magnitude (i : Interval) : Int :=
  if i.value ≥ i.denominator then magnitudeUp i.value i.denominator 400 0
  else -(magnitudeDown i.value i.denominator 400 0 : Int)

/-- Drops the zeros at the end of a number's digits. -/
def significant (n : Nat) : List Char :=
  ((Nat.toDigits 10 n).reverse.dropWhile (· == '0')).reverse

/-- Tries ever finer decimal grids, from `count` digits on. -/
def Interval.search (i : Interval) : (steps : Nat) → (count : Nat) → Digits
  | 0, _ => ⟨['0'], 1⟩
  | steps + 1, count =>
    let scale := i.magnitude - count
    match i.nearest? scale with
    | some d => ⟨significant d, (Nat.toDigits 10 d).length + scale⟩
    | none => i.search steps (count + 1)

/-- The shortest digits that read back as the number, and of those the nearest to it. -/
def Binary.shortest (b : Binary) : Digits := b.interval.search 17 1

end RpcBindings.Decimal
