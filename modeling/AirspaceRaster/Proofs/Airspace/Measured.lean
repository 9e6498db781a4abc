import Mathlib.Tactic.Ring
import AirspaceRaster.Airspace.Vector
import AirspaceRaster.Proofs.Number.Exact

/-! Vectors of exact numbers. A bearing is brought within one turn from north and a distance to zero or more;
    a bearing and a distance that are so already stay what they are. -/

namespace AirspaceRaster

namespace Exact

variable {K : Type} [Field K] [LinearOrder K] [IsStrictOrderedRing K] [FloorRing K] {x y : K}

theorem modulo_eq (hy : 0 < y) : Scalar.modulo x y = y * Int.fract (x / y) := by
  have hzero : (Scalar.ofInt 0 : K) = 0 := Int.cast_zero
  have habs : Scalar.abs y = y := by
    rw [Scalar.abs, hzero, if_neg hy.not_gt]
  have hx : y * (x / y) = x := mul_div_cancel₀ x hy.ne'
  have hfract : x - y * ⌊x / y⌋ = y * Int.fract (x / y) := by
    rw [Int.fract, mul_sub, hx]
  show (if remainder x y < Scalar.ofInt 0 then remainder x y + Scalar.abs y else remainder x y) = _
  rw [hzero, habs, remainder]
  rcases le_or_gt 0 (x / y) with hq | hq
  · rw [if_pos hq, hfract, if_neg (mul_nonneg hy.le (Int.fract_nonneg _)).not_gt]
  · rw [if_neg hq.not_ge]
    split_ifs with hneg
    · -- The quotient was rounded up, so one more divisor makes it the floor.
      have hceil : ((⌈x / y⌉ - 1 : Int) : K) ≤ x / y := by
        rw [Int.cast_sub, Int.cast_one]
        linarith [Int.ceil_lt_add_one (x / y)]
      have hlt : x / y < ⌈x / y⌉ := by
        rw [div_lt_iff₀' hy]
        exact sub_neg.mp hneg
      have hfloor : ⌈x / y⌉ = ⌊x / y⌋ + 1 := by
        have h₁ := Int.le_floor.mpr hceil
        have h₂ := Int.floor_lt.mpr hlt
        omega
      rw [← hfract, hfloor, Int.cast_add, Int.cast_one]
      ring
    · -- The quotient is an integer.
      have hle : (⌈x / y⌉ : K) ≤ x / y := by
        rw [le_div_iff₀' hy]
        exact sub_nonneg.mp (not_lt.mp hneg)
      have hfloor : ⌈x / y⌉ = ⌊x / y⌋ :=
        le_antisymm (Int.le_floor.mpr hle) (Int.floor_le_ceil _)
      rw [hfloor, hfract]

end Exact

namespace AirspaceVector
open Exact

variable {K : Type} [Field K] [LinearOrder K] [IsStrictOrderedRing K] [FloorRing K] {table : AirspaceTable K}
  {index : Fin table.size} {distance bearing : K} {inside : Bool}

/-- A vector made from any distance and any bearing. -/
def IsMeasured (v : AirspaceVector table) : Prop :=
  ∃ index distance bearing inside, v = measured index distance bearing inside

theorem normalizeBearing_eq (bearing : K) : normalizeBearing bearing = 360 * Int.fract (bearing / 360) := by
  have hturn : (Scalar.ofInt 360 : K) = 360 := Int.cast_ofNat 360
  have hlt : 360 * Int.fract (bearing / 360) < 360 :=
    mul_lt_of_lt_one_right (by norm_num) (Int.fract_lt_one _)
  show (if (Scalar.ofInt 360 : K) ≤ Scalar.modulo bearing (Scalar.ofInt 360) then Scalar.ofInt 0
    else Scalar.modulo bearing (Scalar.ofInt 360)) = _
  rw [hturn, modulo_eq (by norm_num), if_neg hlt.not_ge]

theorem bearing_measured_nonneg : 0 ≤ (measured index distance bearing inside).bearing := by
  show 0 ≤ normalizeBearing bearing
  rw [normalizeBearing_eq]
  exact mul_nonneg (by norm_num) (Int.fract_nonneg _)

theorem bearing_measured_lt : (measured index distance bearing inside).bearing < 360 := by
  show normalizeBearing bearing < 360
  rw [normalizeBearing_eq]
  exact mul_lt_of_lt_one_right (by norm_num) (Int.fract_lt_one _)

omit [IsStrictOrderedRing K] in
theorem distance_measured_nonneg : 0 ≤ (measured index distance bearing inside).distance := by
  have hzero : (Scalar.ofInt 0 : K) = 0 := Int.cast_zero
  show 0 ≤ if Scalar.ofInt 0 < distance then distance else Scalar.ofInt 0
  rw [hzero]
  split_ifs with h
  · exact h.le
  · exact le_rfl

/-- A vector whose bearing and distance are in range already holds just these. -/
theorem measured_eq (hd : 0 ≤ distance) (hb₀ : 0 ≤ bearing) (hb : bearing < 360) :
    measured index distance bearing inside = ⟨index, distance, bearing, inside⟩ := by
  have hzero : (Scalar.ofInt 0 : K) = 0 := Int.cast_zero
  have hdistance : (if Scalar.ofInt 0 < distance then distance else Scalar.ofInt 0) = distance := by
    rw [hzero]
    split_ifs with h
    · rfl
    · exact hd.antisymm (not_lt.mp h)
  have hbearing : normalizeBearing bearing = bearing := by
    rw [normalizeBearing_eq, Int.fract_eq_self.mpr ⟨by positivity, by linarith⟩]
    exact mul_div_cancel₀ bearing (by norm_num)
  rw [measured, hdistance, hbearing]

end AirspaceVector

end AirspaceRaster
