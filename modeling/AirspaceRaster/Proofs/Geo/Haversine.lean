import Mathlib.Analysis.SpecialFunctions.Trigonometric.Bounds
import Mathlib.Analysis.SpecialFunctions.Trigonometric.Inverse

/-! Arcs between points on the unit sphere, all angles in radians: `φ` and `ψ` are latitudes and `l` is a
    difference of longitudes. The haversine formula gives the arc. It is at least the difference of the
    latitudes, and within an arc `δ` that does not reach a pole the longitude changes by at most `δ` over the
    cosine of the largest latitude. -/

namespace AirspaceRaster.Haversine

open Real

variable {φ ψ l δ w : ℝ}

/-- The cosine of the arc between two points. -/
noncomputable def cosine (φ ψ l : ℝ) : ℝ :=
  sin φ * sin ψ + cos φ * cos ψ * cos l

/-- The arc between two points. -/
noncomputable def arc (φ ψ l : ℝ) : ℝ :=
  arccos (cosine φ ψ l)

theorem sq_cosine_le (φ ψ l : ℝ) : cosine φ ψ l ^ 2 ≤ 1 - (cos φ * sin l) ^ 2 := by
  have hlagrange : sin φ ^ 2 + (cos φ * cos l) ^ 2 - cosine φ ψ l ^ 2 =
      (sin φ * cos ψ - cos φ * cos l * sin ψ) ^ 2 := by
    rw [cosine]
    linear_combination (-(sin φ ^ 2) - (cos φ * cos l) ^ 2) * sin_sq_add_cos_sq ψ
  have hpoint : sin φ ^ 2 + (cos φ * cos l) ^ 2 = 1 - (cos φ * sin l) ^ 2 := by
    linear_combination sin_sq_add_cos_sq φ + cos φ ^ 2 * sin_sq_add_cos_sq l
  linarith [sq_nonneg (sin φ * cos ψ - cos φ * cos l * sin ψ)]

theorem abs_cosine_le_one (φ ψ l : ℝ) : |cosine φ ψ l| ≤ 1 := by
  rw [← sq_le_one_iff_abs_le_one]
  linarith [sq_cosine_le φ ψ l, sq_nonneg (cos φ * sin l)]

theorem arc_nonneg : 0 ≤ arc φ ψ l :=
  arccos_nonneg _

theorem arc_comm (φ ψ l : ℝ) : arc ψ φ (-l) = arc φ ψ l := by
  rw [arc, arc, cosine, cosine, cos_neg, mul_comm (sin ψ), mul_comm (cos ψ)]

theorem arc_meridian (h : |ψ - φ| ≤ π) : arc φ ψ 0 = |ψ - φ| := by
  have hcosine : cosine φ ψ 0 = cos |ψ - φ| := by
    rw [cos_abs, cos_sub, cosine, cos_zero]
    ring
  rw [arc, hcosine, arccos_cos (abs_nonneg _) h]

theorem arc_eq_haversine (φ ψ l : ℝ) :
    arc φ ψ l = 2 * arcsin √(sin ((ψ - φ) / 2) ^ 2 + cos φ * cos ψ * sin (l / 2) ^ 2) := by
  obtain ⟨h, hh⟩ : ∃ h, h = sin ((ψ - φ) / 2) ^ 2 + cos φ * cos ψ * sin (l / 2) ^ 2 := ⟨_, rfl⟩
  have hcosine : cosine φ ψ l = 1 - 2 * h := by
    have hlat : 2 * sin ((ψ - φ) / 2) ^ 2 = 1 - cos (ψ - φ) := by
      rw [sin_sq_eq_half_sub]
      ring_nf
    have hlon : 2 * sin (l / 2) ^ 2 = 1 - cos l := by
      rw [sin_sq_eq_half_sub]
      ring_nf
    rw [cos_sub] at hlat
    rw [hh, cosine]
    linear_combination hlat + cos φ * cos ψ * hlon
  have hbounds := abs_le.mp (abs_cosine_le_one φ ψ l)
  have hnonneg : 0 ≤ h := by linarith
  have hsqrt : √h ≤ 1 := sqrt_le_one.mpr (by linarith)
  have hsin : sin (arcsin √h) = √h := sin_arcsin (by linarith [sqrt_nonneg h]) hsqrt
  -- Half of the arc has the haversine as the square of its sine.
  have hdouble : cos (2 * arcsin √h) = 1 - 2 * h := by
    rw [cos_two_mul, cos_sq', hsin, sq_sqrt hnonneg]
    ring
  have hle : 2 * arcsin √h ≤ π := by
    linarith [arcsin_le_pi_div_two √h]
  rw [← hh, arc, hcosine, ← hdouble, arccos_cos (mul_nonneg zero_le_two (arcsin_nonneg.mpr (sqrt_nonneg h))) hle]

theorem cos_le_of_arc_le (h : arc φ ψ l ≤ δ) (hδ : δ < π) : cos δ ≤ cosine φ ψ l := by
  obtain ⟨hlow, hhigh⟩ := abs_le.mp (abs_cosine_le_one φ ψ l)
  rw [← cos_arccos hlow hhigh]
  exact cos_le_cos_of_nonneg_of_le_pi arc_nonneg hδ.le h

/-- The cosine of the largest latitude that an arc `δ` from the latitude `φ` may reach. -/
theorem sq_cos_le (hδ : 0 ≤ δ) (hφ : |φ| + δ ≤ w) (hw : w < π / 2) : cos w ^ 2 ≤ cos φ ^ 2 - sin δ ^ 2 := by
  have hφ₀ := abs_nonneg φ
  have hcosw : 0 < cos w := cos_pos_of_mem_Ioo ⟨by linarith, hw⟩
  have hsum : cos w ≤ cos (|φ| + δ) := cos_le_cos_of_nonneg_of_le_pi (by linarith) (by linarith) hφ
  have hdiff : cos w ≤ cos (|φ| - δ) := by
    refine hsum.trans ?_
    have hsinφ : 0 ≤ sin |φ| := sin_nonneg_of_nonneg_of_le_pi hφ₀ (by linarith [pi_pos])
    have hsinδ : 0 ≤ sin δ := sin_nonneg_of_nonneg_of_le_pi hδ (by linarith [pi_pos])
    rw [cos_add, cos_sub]
    linarith [mul_nonneg hsinφ hsinδ]
  calc cos w ^ 2 = cos w * cos w := sq _
    _ ≤ cos (|φ| + δ) * cos (|φ| - δ) := mul_le_mul hsum hdiff hcosw.le (hcosw.le.trans hsum)
    _ = cos φ ^ 2 - sin δ ^ 2 := by
      rw [cos_add, cos_sub, ← cos_abs φ]
      linear_combination cos |φ| ^ 2 * sin_sq_add_cos_sq δ - sin δ ^ 2 * sin_sq_add_cos_sq |φ|

/-! ### What an arc reaches

The hypothesis is a bound `δ` of the arc, given by its cosine. -/

section Reach
variable (hψ : 0 ≤ cos ψ) (h : cos δ ≤ cosine φ ψ l)
include hψ h

theorem abs_latitude_le (hφ : 0 ≤ cos φ) (hδ : 0 ≤ δ) (hlat : |ψ - φ| ≤ π) : |ψ - φ| ≤ δ := by
  by_contra! hlt
  have hcos : cos |ψ - φ| < cos δ := cos_lt_cos_of_nonneg_of_le_pi hδ hlat hlt
  rw [cos_abs, cos_sub] at hcos
  rw [cosine] at h
  have hlon : cos φ * cos ψ * cos l ≤ cos φ * cos ψ * 1 :=
    mul_le_mul_of_nonneg_left (cos_le_one l) (mul_nonneg hφ hψ)
  linarith

/-- An arc that does not reach a pole stays within a quarter turn of longitude. -/
theorem cos_longitude_pos (hδ : 0 ≤ δ) (hpole : |φ| + δ < π / 2) : 0 < cos l := by
  by_contra! hl
  have hcosφ : 0 ≤ cos φ := cos_nonneg_of_mem_Icc (abs_le.mp (by linarith))
  have hlon : cos φ * cos ψ * cos l ≤ 0 := mul_nonpos_of_nonneg_of_nonpos (mul_nonneg hcosφ hψ) hl
  have hsin : sin φ * sin ψ ≤ sin |φ| := by
    calc sin φ * sin ψ ≤ |sin φ| * |sin ψ| := by rw [← abs_mul]; exact le_abs_self _
      _ ≤ |sin φ| * 1 := mul_le_mul_of_nonneg_left (abs_sin_le_one ψ) (abs_nonneg _)
      _ = sin |φ| := by rw [mul_one, abs_sin_eq_sin_abs_of_abs_le_pi (by linarith [pi_pos])]
  have hcos : cos (π / 2 - |φ|) < cos δ :=
    cos_lt_cos_of_nonneg_of_le_pi hδ (by linarith [abs_nonneg φ, pi_pos]) (by linarith)
  rw [cos_pi_div_two_sub] at hcos
  rw [cosine] at h
  linarith

omit hψ in
/-- Seen from the axis of the earth the change of longitude is no longer than the arc. -/
theorem sq_cos_mul_sin_le (hδ : 0 ≤ cos δ) : (cos φ * sin l) ^ 2 ≤ sin δ ^ 2 := by
  have hsq : cos δ ^ 2 ≤ cosine φ ψ l ^ 2 := pow_le_pow_left₀ hδ h 2
  linarith [sin_sq_add_cos_sq δ, sq_cosine_le φ ψ l]

/-- Within an arc `δ` that stays below the latitude `w` the longitude changes by at most `δ / cos w`. -/
theorem abs_longitude_le (hδ : 0 ≤ δ) (hφ : |φ| + δ ≤ w) (hw : w < π / 2) (hl : |l| ≤ π) :
    |l| ≤ δ / cos w := by
  have hφ₀ := abs_nonneg φ
  have hcosφ : 0 ≤ cos φ := cos_nonneg_of_mem_Icc (abs_le.mp (by linarith))
  have hcosl : 0 < cos |l| := by
    rw [cos_abs]
    exact cos_longitude_pos hψ h hδ (by linarith)
  have hquarter : |l| < π / 2 := by
    by_contra! hge
    exact not_le_of_gt hcosl (cos_nonpos_of_pi_div_two_le_of_le hge (by linarith [pi_pos]))
  have hsq : (cos φ * sin |l|) ^ 2 ≤ sin δ ^ 2 := by
    have := sq_cos_mul_sin_le h (cos_nonneg_of_mem_Icc ⟨by linarith, by linarith⟩)
    rcases abs_choice l with hl | hl <;> simpa [hl] using this
  have hsin : cos φ * sin |l| ≤ δ := by
    have hsinδ : 0 ≤ sin δ := sin_nonneg_of_nonneg_of_le_pi hδ (by linarith [pi_pos])
    exact le_trans (abs_le_of_sq_le_sq' hsq hsinδ).2 (sin_le hδ)
  have hcos : cos w ≤ cos φ * cos |l| := by
    have hsq' : cos w ^ 2 ≤ (cos φ * cos |l|) ^ 2 := by
      have hpyth : (cos φ * cos |l|) ^ 2 = cos φ ^ 2 - (cos φ * sin |l|) ^ 2 := by
        linear_combination cos φ ^ 2 * sin_sq_add_cos_sq |l|
      linarith [sq_cos_le hδ hφ hw]
    exact (abs_le_of_sq_le_sq' hsq' (mul_nonneg hcosφ hcosl.le)).2
  have htan : |l| * cos |l| ≤ sin |l| := by
    have := le_tan (abs_nonneg l) hquarter
    rwa [tan_eq_sin_div_cos, le_div_iff₀ hcosl] at this
  rw [le_div_iff₀ (cos_pos_of_mem_Ioo ⟨by linarith, hw⟩)]
  calc |l| * cos w ≤ |l| * (cos φ * cos |l|) := mul_le_mul_of_nonneg_left hcos (abs_nonneg l)
    _ = cos φ * (|l| * cos |l|) := by ring
    _ ≤ cos φ * sin |l| := mul_le_mul_of_nonneg_left htan hcosφ
    _ ≤ δ := hsin

end Reach

end AirspaceRaster.Haversine
