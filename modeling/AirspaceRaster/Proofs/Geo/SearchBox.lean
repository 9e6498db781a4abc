import AirspaceRaster.Proofs.Geo.Distance

/-! What a box holds when it is grown, over the real numbers. A degree of latitude is reckoned a little too
    long for the margin, so growing by some metres is sure to take in only points a little nearer than
    that. Within this reach the margins suffice, as long as the grown box keeps away from the poles and the
    way does not lead across the 180 degree meridian. -/

namespace AirspaceRaster.BoundingBox
open Exact Real GreatCircle

variable {b : BoundingBox ℝ} {p q : Point ℝ} {meters : ℝ}

noncomputable def latMargin (meters : ℝ) : ℝ :=
  meters / 111320

/-- The latitude nearest to a pole that a box reaches when it is grown. -/
noncomputable def worstLat (b : BoundingBox ℝ) (meters : ℝ) : ℝ :=
  max |b.top| |b.bottom| + latMargin meters

/-- The distance up to which a grown box is sure to take in the points around it. -/
noncomputable def reach (meters : ℝ) : ℝ :=
  earthRadius * radians (latMargin meters)

/-- The reach falls short of the metres that the box is grown by, by about a thousandth. -/
theorem reach_bounds (h : 0 < meters) : 0.9988 * meters < reach meters ∧ reach meters < 0.9989 * meters := by
  have hreach : reach meters = meters * (π * (6371008.8 / (111320 * 180))) := by
    rw [reach, latMargin, earthRadius_eq, radians_eq]
    ring
  have hlow := pi_gt_d4
  have hhigh := pi_lt_d4
  rw [hreach, mul_comm _ meters, mul_comm _ meters]
  exact ⟨mul_lt_mul_of_pos_left (by linarith) h, mul_lt_mul_of_pos_left (by linarith) h⟩

/-- The margin of longitude of a grown box in degrees. -/
noncomputable def lonMargin (b : BoundingBox ℝ) (meters : ℝ) : ℝ :=
  latMargin meters / cos (radians (min (b.worstLat meters) 89))

theorem contains_expandedByMeters_iff_lonMargin : (b.expandedByMeters meters).contains p = true ↔
    (b.bottom - latMargin meters ≤ p.lat ∧ p.lat ≤ b.top + latMargin meters) ∧
    b.left - b.lonMargin meters ≤ p.lon ∧ p.lon ≤ b.right + b.lonMargin meters := by
  have hlat : meters / (metersPerDegree : ℝ) = latMargin meters := by
    show meters / ((111320 : ℤ) : ℝ) = meters / 111320
    norm_num
  have hdegrees : (Scalar.ofInt 89 : ℝ) = 89 := by
    show ((89 : ℤ) : ℝ) = 89
    norm_num
  have hcos : cos (Scalar.least (Scalar.greatest (Scalar.abs b.top) (Scalar.abs b.bottom) + latMargin meters)
      (Scalar.ofInt 89) * (Spherical.pi / Scalar.ofInt 180)) = cos (radians (min (b.worstLat meters) 89)) := by
    rw [greatest_eq_max, abs_eq_abs, abs_eq_abs, least_eq_min, hdegrees]
    rfl
  have hlon : meters / ((metersPerDegree : ℝ) * cos (radians (min (b.worstLat meters) 89))) = b.lonMargin meters := by
    rw [← div_div, hlat, lonMargin]
  rw [contains_iff, ← hlon, ← hcos, ← hlat]
  rfl

theorem contains_expandedByMeters_iff (hworst : b.worstLat meters ≤ 89) :
    (b.expandedByMeters meters).contains p = true ↔
      (b.bottom - latMargin meters ≤ p.lat ∧ p.lat ≤ b.top + latMargin meters) ∧
      b.left - latMargin meters / cos (radians (b.worstLat meters)) ≤ p.lon ∧
      p.lon ≤ b.right + latMargin meters / cos (radians (b.worstLat meters)) := by
  rw [contains_expandedByMeters_iff_lonMargin, lonMargin, min_eq_left hworst]

theorem abs_lat_le (hq : b.contains q = true) : |q.lat| ≤ max |b.top| |b.bottom| := by
  obtain ⟨⟨hbottom, htop⟩, -⟩ := contains_iff.mp hq
  rw [max_comm]
  exact abs_le_max_abs_abs hbottom htop

theorem arc_le_of_distance_le_reach (hd : distance p q ≤ reach meters) :
    arc q p ≤ radians (latMargin meters) := by
  rw [distance_eq, reach, earthRadius_eq, arc_comm] at hd
  exact le_of_mul_le_mul_left hd (by norm_num)

/-- Whether the box keeps away from the poles when it is grown, and some point of it is within reach of `p`
    without a way across the 180 degree meridian. -/
def InReach (b : BoundingBox ℝ) (meters : ℝ) (p : Point ℝ) : Prop :=
  b.worstLat meters ≤ 89 ∧
    ∃ q, b.contains q = true ∧ |p.lon - q.lon| ≤ 180 ∧ distance p q ≤ reach meters

theorem contains_expandedByMeters (hp : |p.lat| ≤ 90) (h : b.InReach meters p) :
    (b.expandedByMeters meters).contains p = true := by
  obtain ⟨hworst, q, hq, hlon, hd⟩ := h
  have harc := arc_le_of_distance_le_reach hd
  have hδ : 0 ≤ radians (latMargin meters) := le_trans Haversine.arc_nonneg harc
  have hmargin : 0 ≤ latMargin meters := by
    rwa [← radians_le_radians, radians_eq 0, zero_mul]
  have hqlat : |q.lat| + latMargin meters ≤ b.worstLat meters := by
    rw [worstLat]
    exact add_le_add_left (abs_lat_le hq) _
  have hw : radians (b.worstLat meters) < π / 2 := by
    rw [← radians_90, radians_lt_radians]
    linarith
  have hsum : |radians q.lat| + radians (latMargin meters) ≤ radians (b.worstLat meters) := by
    rwa [abs_radians, ← radians_add, radians_le_radians]
  have hcosp := cos_radians_nonneg hp
  have hcosq : 0 ≤ cos (radians q.lat) := cos_radians_nonneg (by linarith)
  have hcos := Haversine.cos_le_of_arc_le harc (by linarith [abs_nonneg (radians q.lat), pi_pos])
  -- The latitudes differ by at most the margin of latitude, the longitudes by at most the other margin.
  have hlat : |p.lat - q.lat| ≤ latMargin meters := by
    have hturn : |radians p.lat - radians q.lat| ≤ π := by
      rw [← radians_sub, abs_radians, ← radians_180, radians_le_radians]
      exact le_trans (abs_sub _ _) (by linarith)
    have h := Haversine.abs_latitude_le hcosp hcos hcosq hδ hturn
    rwa [← radians_sub, abs_radians, radians_le_radians] at h
  have hlon' : |p.lon - q.lon| ≤ latMargin meters / cos (radians (b.worstLat meters)) := by
    have hturn : |radians (p.lon - q.lon)| ≤ π := by
      rwa [abs_radians, ← radians_180, radians_le_radians]
    have h := Haversine.abs_longitude_le hcosp hcos hδ hsum hw hturn
    rwa [abs_radians, ← radians_div, radians_le_radians] at h
  obtain ⟨⟨hbottom, htop⟩, hleft, hright⟩ := contains_iff.mp hq
  rw [contains_expandedByMeters_iff hworst]
  rw [abs_le] at hlat hlon'
  exact ⟨⟨by linarith, by linarith⟩, by linarith, by linarith⟩

end AirspaceRaster.BoundingBox
