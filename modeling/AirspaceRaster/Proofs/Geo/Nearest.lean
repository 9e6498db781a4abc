import AirspaceRaster.Proofs.Geo.Distance

/-! The nearest point of a boundary over the real numbers. What is found is no farther away than the
    nearest point of any side. -/

namespace AirspaceRaster.GreatCircle
open Exact Real

variable {p a b q : Point ℝ} {best : Option (Point ℝ × ℝ)} {sides : List (Point ℝ × Point ℝ)}

theorem eq_of_beq (h : (a == p) = true) : a = p := by
  obtain ⟨hlat, hlon⟩ := Bool.and_eq_true_iff.mp h
  cases a
  cases p
  congr
  · exact beq_iff_eq.mp hlat
  · exact beq_iff_eq.mp hlon

instance : LawfulBEq (Point ℝ) where
  eq_of_beq := eq_of_beq
  rfl {p} := by
    show (p.lat == p.lat && p.lon == p.lon) = true
    rw [beq_self_eq_true, beq_self_eq_true, Bool.and_self]

/-- A side is touched only where the distance is zero. -/
theorem distance_of_touching (h : nearestOnSide p a b = .touching q) : distance q p = 0 := by
  rw [nearestOnSide] at h
  split_ifs at h with ha hb hshort
  · cases h
    rw [eq_of_beq ha, distance_self]
  · cases h
    rw [eq_of_beq hb, distance_self]
  · dsimp only at h
    split_ifs at h
    all_goals
      cases h
      exact distance_self p

/-- After a side that is not touched the best point is as near as the one before and as the nearest point of
    the side. -/
theorem nearestOnSides_cons (sides : List (Point ℝ × Point ℝ)) (hside : nearestOnSide p a b = .at q)
    (hbest : ∀ c ∈ best, c.2 = distance c.1 p) :
    ∃ c, nearestOnSides p best ((a, b) :: sides) = nearestOnSides p (some c) sides ∧
      c.2 = distance c.1 p ∧ c.2 ≤ distance q p ∧ ∀ d ∈ best, c.2 ≤ d.2 := by
  simp only [nearestOnSides, hside]
  cases best with
  | none => exact ⟨(q, distance q p), by simp [isDefined], rfl, le_rfl, fun d hd => nomatch hd⟩
  | some c =>
    by_cases hlt : distance q p < c.2
    · refine ⟨(q, distance q p), by simp [hlt], rfl, le_rfl, fun d hd => ?_⟩
      cases hd
      exact le_of_lt hlt
    · refine ⟨c, by simp [hlt], hbest c rfl, le_of_not_gt hlt, fun d hd => ?_⟩
      cases hd
      exact le_rfl

/-- Where there is a side some point is found. It is as near as the best one so far and as the nearest point
    of every side. -/
theorem exists_nearestOnSides (hbest : ∀ c ∈ best, c.2 = distance c.1 p) (hne : best ≠ none ∨ sides ≠ []) :
    ∃ q, nearestOnSides p best sides = some q ∧ (∀ c ∈ best, distance q p ≤ c.2) ∧
      ∀ s ∈ sides, ∀ r, nearestOnSide p s.1 s.2 = .at r → distance q p ≤ distance r p := by
  induction sides generalizing best with
  | nil =>
    obtain ⟨c, rfl⟩ := Option.ne_none_iff_exists'.mp (hne.resolve_right fun h => h rfl)
    refine ⟨c.1, rfl, fun d hd => ?_, fun s hs => nomatch hs⟩
    cases hd
    exact le_of_eq (hbest c rfl).symm
  | cons s sides ih =>
    obtain ⟨a, b⟩ := s
    cases hside : nearestOnSide p a b with
    | touching q =>
      have hzero : distance q p = 0 := distance_of_touching hside
      refine ⟨q, by simp only [nearestOnSides, hside], fun c hc => ?_, fun s _ r _ => ?_⟩
      · rw [hzero, hbest c hc]
        exact distance_nonneg c.1 p
      · rw [hzero]
        exact distance_nonneg r p
    | «at» q =>
      obtain ⟨c, heq, hc, hcq, hcbest⟩ := nearestOnSides_cons sides hside hbest
      have hsome : ∀ d ∈ some c, d.2 = distance d.1 p := fun d hd => by
        cases hd
        exact hc
      obtain ⟨r, hr, hrc, hrest⟩ := ih hsome (Or.inl nofun)
      have hrc : distance r p ≤ c.2 := hrc c rfl
      refine ⟨r, heq.trans hr, fun d hd => hrc.trans (hcbest d hd), fun s hs t ht => ?_⟩
      rcases List.mem_cons.mp hs with rfl | hs
      · cases hside.symm.trans ht
        exact hrc.trans hcq
      · exact hrest s hs t ht

/-! ### Sides along a meridian -/

theorem radians_degrees (x : ℝ) : radians (degrees x) = x := by
  have hdegrees : degrees x = x * (180 / π) := by
    show x * (((180 : ℤ) : ℝ) / π) = x * (180 / π)
    norm_num
  rw [radians_eq, hdegrees]
  field_simp

theorem radians_bearing (a b : Point ℝ) : radians (bearing a b) =
    Complex.arg ⟨cos (radians a.lat) * sin (radians b.lat) -
      sin (radians a.lat) * cos (radians b.lat) * cos (radians b.lon - radians a.lon),
      cos (radians b.lat) * sin (radians b.lon - radians a.lon)⟩ :=
  radians_degrees _

/-- To a point farther south on the same meridian the way is due south. -/
theorem bearing_south (hlon : b.lon = a.lon) (hlt : b.lat < a.lat) (hturn : a.lat - b.lat < 180) :
    radians (bearing a b) = π := by
  have hsin : sin (radians b.lat - radians a.lat) < 0 := by
    have hpos : 0 < sin (radians (a.lat - b.lat)) := sin_radians_pos (sub_pos.mpr hlt) hturn
    rwa [← neg_sub, sin_neg, neg_lt_zero, ← radians_sub]
  have hbearing : radians (bearing a b) =
      Complex.arg ((sin (radians b.lat - radians a.lat) : ℝ) : ℂ) := by
    rw [radians_bearing, hlon, sub_self, cos_zero, sin_zero, mul_zero, mul_one, sin_sub]
    congr 1
    apply Complex.ext
    · rw [Complex.ofReal_re]
      ring
    · rfl
  rw [hbearing, Complex.arg_ofReal_of_neg hsin]

theorem negligible_lt_distance_meridian (hlon : a.lon = b.lon) (hlong : 0.1 ≤ a.lat - b.lat)
    (hturn : a.lat - b.lat ≤ 180) : negligible < distance b a := by
  have hnegligible : (negligible : ℝ) = 1 / 4503599627370496 := by
    show ((1 : ℤ) : ℝ) / ((4503599627370496 : ℤ) : ℝ) = _
    norm_num
  have hbounds := (distance_meridian_bounds hlon (by linarith) hturn).1
  rw [distance_comm, hnegligible]
  exact lt_trans (by linarith) hbounds

/-- On a side along the meridian of a point the end toward the point is the nearest one. -/
theorem nearestOnSide_meridian (ha : a.lon = p.lon) (hb : b.lon = p.lon) (hab : b.lat < a.lat)
    (hbp : p.lat < b.lat) (hturn : a.lat - p.lat < 180) (hlong : negligible < distance b a) :
    nearestOnSide p a b = .at b := by
  have hneA : ¬(a == p) = true := fun h => by
    rw [eq_of_beq h] at hab
    exact lt_asymm hab hbp
  have hneB : ¬(b == p) = true := fun h => by
    rw [eq_of_beq h] at hbp
    exact lt_irrefl _ hbp
  have hpos : (Scalar.ofInt 0 : ℝ) < π := by
    show ((0 : ℤ) : ℝ) < π
    simpa using pi_pos
  -- Seen from `b` the point lies opposite to `a`, so the foot of the perpendicular is not on the side.
  have hbehind : Spherical.cos (radians (bearing b p) -
      if Scalar.ofInt 0 < radians (bearing a b) then radians (bearing a b) - Spherical.pi
      else radians (bearing a b) + Spherical.pi) < (Scalar.ofInt 0 : ℝ) := by
    rw [bearing_south (hb.trans ha.symm) hab (by linarith), bearing_south hb.symm hbp (by linarith), if_pos hpos]
    show cos (π - (π - π)) < ((0 : ℤ) : ℝ)
    simp
  have hfar : ¬distance a p < distance b p := by
    rw [distance_meridian ha (by rw [abs_le]; constructor <;> linarith),
      distance_meridian hb (by rw [abs_le]; constructor <;> linarith), abs_sub_comm, abs_sub_comm p.lat,
      abs_of_pos (by linarith), abs_of_pos (by linarith), earthRadius_eq, not_lt]
    exact mul_le_mul_of_nonneg_left (radians_le_radians.mpr (by linarith)) (by norm_num)
  rw [nearestOnSide, if_neg hneA, if_neg hneB, if_neg (not_le_of_gt hlong)]
  dsimp only
  rw [if_neg fun h => h.2.2 hbehind, if_neg hfar]

end AirspaceRaster.GreatCircle
