import AirspaceRaster.Decimal.Shortest

/-! The three ways in which numbers are written: plainly, with the fewest digits and never an
    exponent; in full, where a whole number is marked as a fraction and very large and very small
    ones get an exponent; and with a fixed number of places. -/

namespace AirspaceRaster.Decimal

open Binary64 (decode)
open Float.Model.UnpackedFloat (Sign)

/-- The mark of a negative number, zero included. -/
def signText : Sign → String
  | .negative => "-"
  | .positive => ""

/-- The digits as a positional number, filled up with zeros to the point. -/
def Digits.positional (d : Digits) : String :=
  let ds := Nat.toDigits 10 d.digits
  let point := ds.length + d.exponent
  if point ≤ 0 then "0." ++ String.ofList (List.replicate (-point).toNat '0' ++ ds)
  else if ds.length ≤ point then
    String.ofList (ds ++ List.replicate (point.toNat - ds.length) '0')
  else String.ofList (ds.take point.toNat) ++ "." ++ String.ofList (ds.drop point.toNat)

/-- The digits with one of them before the point, and a power of ten. -/
def Digits.scientific (d : Digits) : String :=
  let ds := Nat.toDigits 10 d.digits
  let power := ds.length + d.exponent - 1
  String.ofList (ds.take 1) ++ (if ds.length ≤ 1 then "" else "." ++ String.ofList (ds.drop 1))
    ++ "e" ++ toString power

/-- How a number that is not written with fixed places is laid out. -/
structure Layout where
  /-- What follows a whole number. -/
  wholeMark : String
  /-- The least power of ten that is written positionally, if there is one. -/
  lowest : Option Int
  /-- The first power of ten that is not written positionally any more, if there is one. -/
  highest : Option Int

/-- Plain numbers have no mark and no exponent. -/
def Layout.plain : Layout := ⟨"", none, none⟩

/-- Full numbers end in `.0` if they are whole, and have an exponent below `10 ^ -4` and from
    `10 ^ 16` on. -/
def Layout.full : Layout := ⟨".0", some (-4), some 16⟩

def Layout.digits (l : Layout) (d : Digits) : String :=
  let power := digitCount d.digits + d.exponent - 1
  if l.lowest.any (power < ·) || l.highest.any (· ≤ power) then d.scientific
  else if 0 ≤ d.exponent then d.positional ++ l.wholeMark
  else d.positional

def Layout.render (l : Layout) (x : Float) : String :=
  match decode x with
  | .notANumber => "NaN"
  | .infinity s => signText s ++ "inf"
  | .zero s => signText s ++ "0" ++ l.wholeMark
  | .finite s m e _ => signText s ++ l.digits (shortest m e)

/-- A number written plainly: the fewest digits that read back, and no exponent. -/
def plain (x : Float) : String :=
  Layout.plain.render x

/-- A number written in full: the fewest digits that read back, recognisable as a fraction. -/
def full (x : Float) : String :=
  Layout.full.render x

/-- The quotient rounded to a whole number, a half going to the even neighbour. -/
def divideToEven (num den : Nat) : Nat :=
  let q := num / den
  let r := num % den
  if den < 2 * r ∨ 2 * r = den ∧ q % 2 = 1 then q + 1 else q

/-- A natural number of units `10 ^ -places`, written with that many places. -/
def withPlaces (places n : Nat) : String :=
  let ds := Nat.toDigits 10 n
  let ds := List.replicate (places + 1 - ds.length) '0' ++ ds
  let whole := String.ofList (ds.take (ds.length - places))
  if places = 0 then whole else whole ++ "." ++ String.ofList (ds.drop (ds.length - places))

/-- A number written with a fixed count of places. Its exact value is rounded, a half going to the
    even digit, and the sign stays even if nothing but zeros is left. -/
def fixed (places : Nat) (x : Float) : String :=
  match decode x with
  | .notANumber => "NaN"
  | .infinity s => signText s ++ "inf"
  | .zero s => signText s ++ withPlaces places 0
  | .finite s m e _ =>
    signText s ++
      withPlaces places (divideToEven (m <<< e.toNat * tenTo places) (1 <<< (-e).toNat))

end AirspaceRaster.Decimal
