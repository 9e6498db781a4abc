import Mathlib.Analysis.Real.Pi.Bounds
import AirspaceRaster.Proofs.Geo.Haversine
import AirspaceRaster.Proofs.Number.Real

/-! Distances on the globe over the real numbers: the radius of the earth times the arc between two
    points. -/

namespace AirspaceRaster

namespace Point
open Exact

theorem isValid_iff {p : Point ℝ} : p.isValid = true ↔ |p.lat| ≤ 90 ∧ |p.lon| ≤ 180 := by
  have hofInt : ∀ n : ℤ, (Scalar.ofInt n : ℝ) = n := fun _ => rfl
  rw [isValid, Bool.and_eq_true, Scalar.isWithin_iff, Scalar.isWithin_iff, abs_le, abs_le]
  simp only [hofInt]
  norm_num

end Point

namespace GreatCircle
open Exact Real

variable {a b : Point ℝ}

theorem radians_eq (d : ℝ) : radians d = d * (π / 180) := by
  show d * (π / ((180 : ℤ) : ℝ)) = d * (π / 180)
  norm_num

theorem radians_sub (c d : ℝ) : radians (c - d) = radians c - radians d := by
  simp only [radians_eq]
  ring

theorem radians_add (c d : ℝ) : radians (c + d) = radians c + radians d := by
  simp only [radians_eq]
  ring

theorem radians_div (c d : ℝ) : radians (c / d) = radians c / d := by
  simp only [radians_eq]
  ring

theorem abs_radians (d : ℝ) : |radians d| = radians |d| := by
  rw [radians_eq, radians_eq, abs_mul, abs_of_pos (by positivity : 0 < π / 180)]

theorem radians_le_radians {c d : ℝ} : radians c ≤ radians d ↔ c ≤ d := by
  rw [radians_eq, radians_eq]
  exact mul_le_mul_iff_left₀ (by positivity)

theorem radians_lt_radians {c d : ℝ} : radians c < radians d ↔ c < d :=
  lt_iff_lt_of_le_iff_le radians_le_radians

theorem radians_180 : radians (180 : ℝ) = π := by
  rw [radians_eq]
  ring

theorem radians_90 : radians (90 : ℝ) = π / 2 := by
  rw [radians_eq]
  ring

theorem cos_radians_nonneg {d : ℝ} (h : |d| ≤ 90) : 0 ≤ Real.cos (radians d) := by
  refine cos_nonneg_of_mem_Icc (abs_le.mp ?_)
  rwa [← radians_90, abs_radians, radians_le_radians]

theorem radians_nonneg {d : ℝ} (h : 0 ≤ d) : 0 ≤ radians d := by
  rw [radians_eq]
  positivity

theorem cos_radians_pos {d : ℝ} (h : |d| < 90) : 0 < Real.cos (radians d) := by
  refine cos_pos_of_mem_Ioo (abs_lt.mp ?_)
  rwa [← radians_90, abs_radians, radians_lt_radians]

theorem sin_radians_pos {d : ℝ} (h : 0 < d) (hturn : d < 180) : 0 < Real.sin (radians d) := by
  refine sin_pos_of_pos_of_lt_pi ?_ ?_
  · rw [radians_eq]
    positivity
  · rwa [← radians_180, radians_lt_radians]

theorem earthRadius_eq : (earthRadius : ℝ) = 6371008.8 := by
  show ((63710088 : ℤ) : ℝ) / ((10 : ℤ) : ℝ) = 6371008.8
  norm_num

/-- The arc between two points. -/
noncomputable def arc (a b : Point ℝ) : ℝ :=
  Haversine.arc (radians a.lat) (radians b.lat) (radians (b.lon - a.lon))

theorem distance_eq (a b : Point ℝ) : distance a b = earthRadius * arc a b := by
  show earthRadius * (((2 : ℤ) : ℝ) * arcsin (√ (sin (radians (b.lat - a.lat) / ((2 : ℤ) : ℝ)) *
      sin (radians (b.lat - a.lat) / ((2 : ℤ) : ℝ)) + cos (radians a.lat) * cos (radians b.lat) *
      (sin (radians (b.lon - a.lon) / ((2 : ℤ) : ℝ)) * sin (radians (b.lon - a.lon) / ((2 : ℤ) : ℝ)))))) = _
  simp only [arc, Haversine.arc_eq_haversine, radians_sub, sq, Int.cast_ofNat]

theorem arc_comm (a b : Point ℝ) : arc a b = arc b a := by
  have hlon : radians (b.lon - a.lon) = -radians (a.lon - b.lon) := by
    rw [radians_sub, radians_sub, neg_sub]
  rw [arc, hlon, Haversine.arc_comm]
  rfl

theorem distance_comm (a b : Point ℝ) : distance a b = distance b a := by
  rw [distance_eq, distance_eq, arc_comm]

theorem distance_nonneg (a b : Point ℝ) : 0 ≤ distance a b := by
  rw [distance_eq, earthRadius_eq]
  exact mul_nonneg (by norm_num) Haversine.arc_nonneg

/-- Along a meridian distances are differences of latitude. -/
theorem distance_meridian (hlon : a.lon = b.lon) (h : |b.lat - a.lat| ≤ 180) :
    distance a b = earthRadius * radians |b.lat - a.lat| := by
  have hle : |radians b.lat - radians a.lat| ≤ π := by
    rwa [← radians_sub, abs_radians, ← radians_180, radians_le_radians]
  have hzero : radians (b.lon - a.lon) = 0 := by
    rw [hlon, sub_self, radians_eq, zero_mul]
  rw [distance_eq, arc, hzero, Haversine.arc_meridian hle, ← radians_sub, abs_radians]

/-- Along a meridian a degree of latitude is between 111194 and 111196 metres. -/
theorem distance_meridian_bounds (hlon : a.lon = b.lon) (hlt : b.lat < a.lat) (h : a.lat - b.lat ≤ 180) :
    111194 * (a.lat - b.lat) < distance a b ∧ distance a b < 111196 * (a.lat - b.lat) := by
  have hpos : 0 < a.lat - b.lat := sub_pos.mpr hlt
  have habs : |b.lat - a.lat| = a.lat - b.lat := by
    rw [abs_sub_comm, abs_of_pos hpos]
  have hdistance : distance a b = π * (6371008.8 / 180) * (a.lat - b.lat) := by
    rw [distance_meridian hlon (by rwa [habs]), habs, earthRadius_eq, radians_eq]
    ring
  have hlow := pi_gt_d6
  have hhigh := pi_lt_d6
  rw [hdistance]
  exact ⟨mul_lt_mul_of_pos_right (by linarith) hpos, mul_lt_mul_of_pos_right (by linarith) hpos⟩

theorem distance_self (a : Point ℝ) : distance a a = 0 := by
  rw [distance_meridian rfl (by simp), sub_self, abs_zero, radians_eq, zero_mul, mul_zero]

end GreatCircle

end AirspaceRaster
