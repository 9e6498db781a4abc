import AirspaceRaster.Decimal.Shortest

/-! Reading decimals. A literal is an optional sign and either the word for an infinity or for an
    undefined number, in any case, or digits with an optional point and an optional exponent. It
    stands for the nearest double. -/

namespace AirspaceRaster.Decimal

/-- A written number before it is rounded to a double. -/
inductive Literal where
  /-- The number `± digits · 10 ^ exponent`. -/
  | finite (negative : Bool) (digits : Nat) (exponent : Int)
  | infinite (negative : Bool)
  | undefined
  deriving DecidableEq, Repr

/-- The nearest double, a half going to the even mantissa; too large a number becomes infinite. A
    number beyond `10 ^ 400` or below `10 ^ -400` needs no arithmetic for that. -/
def Literal.value : Literal → Float
  | .undefined => 0.0 / 0.0
  | .infinite negative => if negative then -1.0 / 0.0 else 1.0 / 0.0
  | .finite negative digits exponent =>
    let position := digitCount digits + exponent
    let magnitude :=
      if digits = 0 ∨ position < -400 then 0.0
      else if 400 < position then 1.0 / 0.0
      else Float.ofScientific digits (exponent < 0) exponent.natAbs
    if negative then -magnitude else magnitude

/-- The number that a row of decimal digits stands for. -/
def ofDigits (ds : List Char) : Nat :=
  ds.foldl (fun n c => 10 * n + (c.toNat - '0'.toNat)) 0

/-- The sign at the start of a text, true for a minus, and the rest. -/
def readSign : List Char → Bool × List Char
  | '-' :: rest => (true, rest)
  | '+' :: rest => (false, rest)
  | cs => (false, cs)

/-- The exponent that a text after the digits consists of: nothing, or `e` with an optional sign and
    at least one digit. -/
def readExponent : List Char → Option Int
  | [] => some 0
  | c :: rest =>
    if c = 'e' ∨ c = 'E' then
      let (negative, ds) := readSign rest
      if ds.isEmpty || !ds.all Char.isDigit then none
      else some (if negative then -(ofDigits ds) else ofDigits ds)
    else none

/-- An unsigned number: digits, a point with more digits if there is one, and an exponent if there
    is one. At least one digit stands before or after the point. -/
def readMagnitude (negative : Bool) (cs : List Char) : Option Literal :=
  let whole := cs.takeWhile Char.isDigit
  let rest := cs.dropWhile Char.isDigit
  let (places, tail) := match rest with
    | '.' :: rest => (rest.takeWhile Char.isDigit, rest.dropWhile Char.isDigit)
    | _ => ([], rest)
  if whole.isEmpty && places.isEmpty then none
  else (readExponent tail).map fun e =>
    .finite negative (ofDigits (whole ++ places)) (e - places.length)

/-- Whether a text is a given lower-case word, in any case. -/
def isWord (word : String) (cs : List Char) : Bool :=
  cs.map Char.toLower == word.toList

/-- The literal that the whole text consists of. -/
def Literal.read? (cs : List Char) : Option Literal :=
  let (negative, rest) := readSign cs
  if isWord "inf" rest || isWord "infinity" rest then some (.infinite negative)
  else if isWord "nan" rest then some .undefined
  else readMagnitude negative rest

def read? (s : String) : Option Float :=
  (Literal.read? s.toList).map Literal.value

end AirspaceRaster.Decimal
