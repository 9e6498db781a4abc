import Mathlib.Analysis.SpecialFunctions.Complex.Arg
import AirspaceRaster.Geo.GreatCircle
import AirspaceRaster.Proofs.Number.Exact

/-! Real numbers as numbers of the geometry, with the circular functions as they are in analysis and the
    orientation of a triangle as the sign of its area. Nothing is rounded, so the formulas of the great
    circles have their textbook meaning. -/

namespace AirspaceRaster.Exact

noncomputable scoped instance : Spherical ℝ where
  sin := Real.sin
  cos := Real.cos
  arcsin := Real.arcsin
  arccos := Real.arccos
  arctan2 y x := Complex.arg ⟨x, y⟩
  sqrt := Real.sqrt
  pi := Real.pi
  orientation a b c :=
    compare ((a.1 - c.1) * (b.2 - c.2)) ((a.2 - c.2) * (b.1 - c.1))

theorem greatest_eq_max (x y : ℝ) : Scalar.greatest x y = max x y := by
  rw [Scalar.greatest, isDefined]
  simp only [Bool.true_eq_false, or_false]
  split
  · rename_i h
    exact (max_eq_left (le_of_lt h)).symm
  · rename_i h
    exact (max_eq_right (le_of_not_gt h)).symm

theorem least_eq_min (x y : ℝ) : Scalar.least x y = min x y := by
  rw [Scalar.least, isDefined]
  simp only [Bool.true_eq_false, or_false]
  split
  · rename_i h
    exact (min_eq_left (le_of_lt h)).symm
  · rename_i h
    exact (min_eq_right (le_of_not_gt h)).symm

theorem abs_eq_abs (x : ℝ) : Scalar.abs x = |x| := by
  have hzero : (Scalar.ofInt 0 : ℝ) = 0 := Int.cast_zero
  rw [Scalar.abs, hzero]
  split
  · rename_i h
    exact (abs_of_neg h).symm
  · rename_i h
    exact (abs_of_nonneg (le_of_not_gt h)).symm

end AirspaceRaster.Exact
