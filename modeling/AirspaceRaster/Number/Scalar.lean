import AirspaceRaster.Number.Whole

/-! The numbers in which distances, bearings and coordinates are measured. The pipeline is written
    once over `Scalar`: it runs on doubles, where every operation rounds, and can be read over exact
    numbers, where none does. `Spherical` adds what the geometry on the globe needs. -/

namespace AirspaceRaster

/-- Numbers with arithmetic, comparison and rounding to whole numbers. Comparisons are those of the
    number type: an undefined number compares false with everything, itself included. -/
class Scalar (R : Type) extends Add R, Sub R, Mul R, Div R, Neg R, LE R, LT R, BEq R where
  decLe : DecidableLE R
  decLt : DecidableLT R
  /-- The number equal to an integer. -/
  ofInt : Int → R
  /-- The nearest whole number, a half going away from zero. -/
  nearest : R → Whole
  /-- The largest whole number that is not above. -/
  floor : R → Whole
  /-- The remainder of division toward zero, with the sign of the dividend. -/
  remainder : R → R → R

instance Scalar.decidableLE {R : Type} [Scalar R] : DecidableLE R := Scalar.decLe

instance Scalar.decidableLT {R : Type} [Scalar R] : DecidableLT R := Scalar.decLt

/-- Numbers with circular functions, square root and a test of orientation. -/
class Spherical (R : Type) extends Scalar R where
  sin : R → R
  cos : R → R
  arcsin : R → R
  arccos : R → R
  /-- The angle of the point whose ordinate comes first and whose abscissa comes second. -/
  arctan2 : R → R → R
  sqrt : R → R
  pi : R
  /-- The orientation of the triangle `a b c`, each corner given by abscissa and ordinate: `gt` for
      counter-clockwise, `lt` for clockwise, `eq` for corners on one line. -/
  orientation : (a b c : R × R) → Ordering

namespace Scalar
variable {R : Type} [Scalar R]

def abs (x : R) : R :=
  if x < ofInt 0 then -x else x

/-- The remainder of Euclidean division, never below zero. -/
def modulo (x y : R) : R :=
  let r := remainder x y
  if r < ofInt 0 then r + abs y else r

/-- Whether a number is defined, that is equal to itself. -/
def isDefined (x : R) : Bool :=
  x == x

/-- Whether a number is infinite: such a number is defined, but its difference from itself is not. -/
def isInfinite (x : R) : Bool :=
  isDefined x && !isDefined (x - x)

/-- The smaller of two numbers, the second on a tie; an undefined one gives way to the other. -/
def least (x y : R) : R :=
  if x < y ∨ isDefined y = false then x else y

/-- The larger of two numbers, the second on a tie; an undefined one gives way to the other. -/
def greatest (x y : R) : R :=
  if y < x ∨ isDefined y = false then x else y

/-- Whether a number lies in the closed range from `lo` to `hi`. -/
def isWithin (lo hi x : R) : Bool :=
  decide (lo ≤ x) && decide (x ≤ hi)

theorem isWithin_iff {lo hi x : R} : isWithin lo hi x = true ↔ lo ≤ x ∧ x ≤ hi := by
  rw [isWithin, Bool.and_eq_true, decide_eq_true_eq, decide_eq_true_eq]

end Scalar

end AirspaceRaster
