import AirspaceRaster.Decimal.Literal

/-! The numbers of a JSON text. They are read for speed: as many digits as fit into 64 bits count, and
    the power of ten is applied with one rounding or two, so the double may be off in its last place. -/

namespace AirspaceRaster.Json

/-- A number as it is written. -/
structure Number where
  negative : Bool
  /-- The digits before the point. -/
  whole : List Char
  /-- The digits behind the point. -/
  places : List Char
  /-- The exponent. -/
  power : Int
  deriving DecidableEq, Repr

namespace Number

/-- Whether a row of digits is the whole part of a number: it has no needless zero in front. -/
def isWholePart (ds : List Char) : Bool :=
  match ds with
  | [] => false
  | ['0'] => true
  | d :: _ => d != '0'

/-- The places behind the whole part of a number, of which a point has at least one, and the rest. -/
def readPlaces? : List Char → Option (List Char × List Char)
  | '.' :: rest =>
    let places := rest.takeWhile Char.isDigit
    if places.isEmpty then none else some (places, rest.dropWhile Char.isDigit)
  | rest => some ([], rest)

/-- The number without its sign that the whole text consists of. -/
def readMagnitude? (negative : Bool) (cs : List Char) : Option Number := do
  let whole := cs.takeWhile Char.isDigit
  let (places, rest) ← readPlaces? (cs.dropWhile Char.isDigit)
  let power ← Decimal.readExponent rest
  if isWholePart whole then some ⟨negative, whole, places, power⟩ else none

/-- The number that the whole text consists of. -/
def read? : List Char → Option Number
  | '-' :: rest => readMagnitude? true rest
  | cs => readMagnitude? false cs

/-- The number that grows from `n` by further digits as long as it fits into 64 bits, and the digits
    that are left. -/
def fill (n : Nat) : List Char → Nat × List Char
  | [] => (n, [])
  | d :: ds =>
    let m := 10 * n + (d.toNat - '0'.toNat)
    if m < UInt64.size then fill m ds else (n, d :: ds)

/-- The magnitude as `n · 10 ^ e`, less the digits that do not fit. -/
def scaled (x : Number) : Nat × Int :=
  let (n, skipped) := fill 0 x.whole
  let (m, cut) := fill n x.places
  (m, x.power + skipped.length - (x.places.length - cut.length : Nat))

def powerOfTen (e : Nat) : Float :=
  Float.ofScientific 1 false e

/-- A double divided by a power of ten, in two steps if the power is too large for a double. -/
def dividedByPower (x : Float) (e : Nat) : Float :=
  if e ≤ 308 then x / powerOfTen e
  else if e ≤ 616 then x / powerOfTen 308 / powerOfTen (e - 308)
  else 0.0

/-- The double of the magnitude; there is none if it is too large. -/
def magnitude? (x : Number) : Option Float :=
  match x.scaled with
  | (0, _) => some 0.0
  | (n, .ofNat e) =>
    let y := Float.ofNat n * powerOfTen e
    if e ≤ 308 ∧ y.isFinite then some y else none
  | (n, .negSucc e) => some (dividedByPower (Float.ofNat n) (e + 1))

/-- The double that the number stands for; there is none if it is too large. -/
def value? (x : Number) : Option Float :=
  x.magnitude?.map fun y => if x.negative then -y else y

end Number

end AirspaceRaster.Json
