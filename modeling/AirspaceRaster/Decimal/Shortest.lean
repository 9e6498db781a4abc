import AirspaceRaster.Number.Binary64

/-! The shortest decimal that reads back as a given double. A double stands for an interval of real
    numbers, all that round to it. For one digit, two digits, and so on, the two decimals around the
    double on the grid of that many digits are tried, and the first grid with a point in the
    interval gives the digits. -/

namespace AirspaceRaster.Decimal

/-- A positive decimal: the number `digits · 10 ^ exponent`. -/
structure Digits where
  digits : Nat
  exponent : Int
  deriving DecidableEq, Repr

def tenTo (k : Nat) : Nat := Nat.pow 10 k

def digitCount (n : Nat) : Nat :=
  (Nat.toDigits 10 n).length

/-- The position of the first digit of `num / den`: the `e` with `10 ^ (e - 1) ≤ num / den` and
    `num / den < 10 ^ e`, for a positive quotient. -/
def leadingPosition (num den : Nat) : Int :=
  if den ≤ num then digitCount (num / den)
  else 1 - (digitCount ((den + num - 1) / num - 1) : Int)

/-- The real numbers that round to one double, as fractions over a common denominator. -/
structure Rounding where
  low : Nat
  value : Nat
  high : Nat
  den : Nat
  /-- Whether the two ends round to the double too, which they do for an even mantissa. -/
  closed : Bool

/-- The interval around `m · 2 ^ e`. Below a power of two the neighbour is only half as far away,
    except for the smallest exponent. -/
def Rounding.around (m : Nat) (e : Int) : Rounding :=
  let scale := 1 <<< (e - 2).toNat
  { low := (if m = 1 <<< 52 ∧ -1074 < e then 4 * m - 1 else 4 * m - 2) * scale
    value := 4 * m * scale
    high := (4 * m + 2) * scale
    den := 1 <<< (2 - e).toNat
    closed := m % 2 == 0 }

/-- Whether the decimal rounds to the double. -/
def Rounding.contains (r : Rounding) (d : Digits) : Bool :=
  let lhs := d.digits * tenTo d.exponent.toNat * r.den
  let unit := tenTo (-d.exponent).toNat
  if r.closed then r.low * unit ≤ lhs && lhs ≤ r.high * unit
  else r.low * unit < lhs && lhs < r.high * unit

/-- The grid point of spacing `10 ^ exponent` that rounds to the double and is nearest to it, a tie
    going up; none if no grid point does. -/
def Rounding.onGrid (r : Rounding) (exponent : Int) : Option Digits :=
  let unit := r.den * tenTo exponent.toNat
  let value := r.value * tenTo (-exponent).toNat
  let below : Digits := ⟨value / unit, exponent⟩
  let above : Digits := ⟨value / unit + 1, exponent⟩
  match r.contains below, r.contains above with
  | true, true => some (if 2 * (value % unit) < unit then below else above)
  | true, false => some below
  | false, true => some above
  | false, false => none

/-- The first grid of `count`, `count + 1`, … digits with a point in the interval, for at most
    `tries` grids. -/
def Rounding.firstGrid (r : Rounding) (position : Int) : (count tries : Nat) → Option Digits
  | _, 0 => none
  | count, tries + 1 =>
    match r.onGrid (position - count) with
    | some d => some d
    | none => r.firstGrid position (count + 1) tries

def Digits.trimmed (d : Digits) : Digits :=
  let zeros := ((Nat.toDigits 10 d.digits).reverse.takeWhile (· == '0')).length
  ⟨d.digits / tenTo zeros, d.exponent + zeros⟩

/-- The shortest decimal that reads back as `m · 2 ^ e`, and of several the nearest. Seventeen digits
    always suffice. -/
def shortest (m : Nat) (e : Int) : Digits :=
  let r := Rounding.around m e
  ((r.firstGrid (leadingPosition r.value r.den) 1 17).getD ⟨0, 0⟩).trimmed

end AirspaceRaster.Decimal
