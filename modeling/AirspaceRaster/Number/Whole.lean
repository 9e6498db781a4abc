/-! Whole numbers as rounding delivers them. Rounding a number gives an integer, or one of the two
    infinities, or nothing at all; every byte and every altitude of the raster is one of these
    limited to a range, so the limits and the remainder are defined here once, on integers. -/

namespace AirspaceRaster

/-- The outcome of rounding a number to a whole one. -/
inductive Whole where
  /-- An integer. -/
  | of (n : Int)
  /-- Larger than every integer. -/
  | above
  /-- Smaller than every integer. -/
  | below
  /-- No number at all, such as zero divided by zero. -/
  | undefined
  deriving DecidableEq, Repr

namespace Whole

/-- The whole number limited to `lo..hi`; what is undefined counts as zero. -/
def saturate (lo hi : Int) : Whole → Int
  | of n => max lo (min hi n)
  | above => hi
  | below => lo
  | undefined => 0

/-- The whole number limited to `0..hi`. -/
def upTo (hi : Nat) (w : Whole) : Nat :=
  (w.saturate 0 hi).toNat

/-- The remainder of a Euclidean division. It lies in `[0, |s|)`, is undefined for a divisor of
    zero, and an infinite divisor leaves a dividend of zero or more as it is. -/
def modulo : Whole → Whole → Whole
  | of q, of s => if s = 0 then undefined else of (q % s)
  | of q, above => if q < 0 then above else of q
  | of q, below => if q < 0 then above else of q
  | _, _ => undefined

theorem upTo_le (hi : Nat) (w : Whole) : w.upTo hi ≤ hi := by
  cases w <;> simp only [upTo, saturate] <;> omega

theorem saturate_of {lo hi n : Int} (h₁ : lo ≤ n) (h₂ : n ≤ hi) : (of n).saturate lo hi = n := by
  simp only [saturate]; omega

end Whole

end AirspaceRaster
