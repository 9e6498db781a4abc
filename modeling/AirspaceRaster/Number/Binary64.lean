import AirspaceRaster.Number.Orientation
import AirspaceRaster.Number.Scalar

/-! Doubles as scalars. A finite double is a sign, a mantissa and a power of two; rounding, floor and
    remainder are computed on these integers, so each of them is exact. -/

namespace AirspaceRaster.Binary64

open Float.Model (UnpackedFloat)
open Float.Model.UnpackedFloat (Sign)

/-- The sign, mantissa and exponent of a double, or which special value it is. -/
def decode (x : Float) : UnpackedFloat :=
  x.toModel.unpack

/-- The double nearest to `± m · 2 ^ e`, a half going to the even mantissa. -/
def encode (s : Sign) (m : Nat) (e : Int) : Float :=
  .ofModel (.pack (UnpackedFloat.round .binary64 s m e))

/-- The whole number nearest to `m · 2 ^ e`, a half going up. -/
def roundScaled (m : Nat) (e : Int) : Nat :=
  if 0 ≤ e then m <<< e.toNat
  else (2 * m + 1 <<< (-e).toNat) / 1 <<< ((-e).toNat + 1)

/-- The largest whole number not above `n · 2 ^ e`. -/
def floorScaled (n : Int) (e : Int) : Int :=
  if 0 ≤ e then n * (1 <<< e.toNat : Nat) else n.fdiv (1 <<< (-e).toNat : Nat)

/-- The nearest whole number, a half going away from zero. -/
def nearest (x : Float) : Whole :=
  match decode x with
  | .notANumber => .undefined
  | .infinity .positive => .above
  | .infinity .negative => .below
  | .zero _ => .of 0
  | .finite s m e _ => .of (s.apply (roundScaled m e))

/-- The largest whole number that is not above. -/
def floor (x : Float) : Whole :=
  match decode x with
  | .notANumber => .undefined
  | .infinity .positive => .above
  | .infinity .negative => .below
  | .zero _ => .of 0
  | .finite s m e _ => .of (floorScaled (s.apply m) e)

/-- The remainder of division toward zero. It has the sign of the dividend and is always exact. -/
def remainder (x y : Float) : Float :=
  match decode x, decode y with
  | .finite s m e _, .finite _ n f _ =>
    let g := min e f
    encode s ((m <<< (e - g).toNat) % (n <<< (f - g).toNat)) g
  | .finite .., .infinity _ => x
  | .zero _, .finite .. => x
  | .zero _, .infinity _ => x
  | _, _ => 0.0 / 0.0

instance : Scalar Float where
  decLe := inferInstance
  decLt := inferInstance
  ofInt := Float.ofInt
  nearest := nearest
  floor := floor
  remainder := remainder

instance : Spherical Float where
  sin := Float.sin
  cos := Float.cos
  arcsin := Float.asin
  arccos := Float.acos
  arctan2 := Float.atan2
  sqrt := Float.sqrt
  pi := 3.141592653589793
  orientation := orientation

end AirspaceRaster.Binary64
