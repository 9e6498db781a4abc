import AirspaceRaster.Proofs.Raster.Enumeration

/-! The points of all rasters, over exact numbers. A coordinate of a grid point is a whole degree and a proper
    fraction of the next one, so coordinates are ordered by their degrees first and by their steps within a degree
    second, south and west of zero as well. The rasters of all tiles are therefore one lattice, in which every point
    belongs to one tile. -/

namespace AirspaceRaster.Tile
open Exact

variable {K : Type} [Field K] [LinearOrder K] [FloorRing K] {t u : Tile} {k l : Int} {i j n x x' y y' : Nat}

/-! ### One axis -/

theorem lat_gridPoint (t : Tile) (x y n : Nat) : (gridPoint t x y n : Point K).lat = t.lat + y / n := by
  simp only [gridPoint, ofInt_natCast]
  rfl

theorem lon_gridPoint (t : Tile) (x y n : Nat) : (gridPoint t x y n : Point K).lon = t.lon + x / n := by
  simp only [gridPoint, ofInt_natCast]
  rfl

variable [IsStrictOrderedRing K]

theorem floor_add_step (k : Int) (hi : i < n) : ⌊(k : K) + i / n⌋ = k := by
  have hn : (0 : K) < n := by exact_mod_cast Nat.zero_lt_of_lt hi
  have hlt : (i : K) < n := by exact_mod_cast hi
  rw [Int.floor_intCast_add, Int.floor_eq_zero_iff.mpr ⟨by positivity, (div_lt_one hn).mpr hlt⟩, add_zero]

/-- Of two coordinates the one with the lower degree is the smaller one, and within a degree the one with fewer
    steps. -/
theorem add_step_lt_iff (hi : i < n) (hj : j < n) :
    (k : K) + i / n < l + j / n ↔ k < l ∨ k = l ∧ i < j := by
  have hn : (0 : K) < n := by exact_mod_cast Nat.zero_lt_of_lt hi
  have hsame : ∀ k : Int, (k : K) + i / n < k + j / n ↔ i < j := fun k => by
    rw [add_lt_add_iff_left, div_lt_div_iff_of_pos_right hn, Nat.cast_lt]
  have hmono : ∀ {k l : Int} {i j : Nat}, i < n → j < n → k < l → (k : K) + i / n < l + j / n := by
    intro k l i j hi hj hkl
    rw [← not_le]
    intro hle
    have hfloor := Int.floor_le_floor hle
    rw [floor_add_step k hi, floor_add_step l hj] at hfloor
    omega
  rcases lt_trichotomy k l with hkl | rfl | hlk
  · simp [hkl, hmono hi hj hkl]
  · simp [hsame k]
  · simp [hlk.not_gt, hlk.ne', (hmono hj hi hlk).not_gt]

theorem add_step_inj (hi : i < n) (hj : j < n) : (k : K) + i / n = l + j / n ↔ k = l ∧ i = j := by
  constructor
  · intro heq
    have hij := mt (add_step_lt_iff (K := K) hi hj).mpr heq.not_lt
    have hji := mt (add_step_lt_iff (K := K) hj hi).mpr heq.not_gt
    omega
  · rintro ⟨rfl, rfl⟩
    rfl

/-! ### Points -/

theorem containing_gridPoint (hlat : Fits32 t.lat) (hlon : Fits32 t.lon) (hx : x < n) (hy : y < n) :
    containing (gridPoint t x y n : Point K) = t := by
  have hwhole : ∀ {k : Int} {i : Nat}, Fits32 k → i < n → wholeDegrees ((k : K) + i / n) = k := by
    intro k i hk hi
    show (Whole.of ⌊(k : K) + i / n⌋).saturate _ _ = k
    rw [floor_add_step k hi]
    exact Whole.saturate_of hk.1 hk.2
  rw [containing, lat_gridPoint, lon_gridPoint, hwhole hlat hy, hwhole hlon hx]

/-- A grid point lies in the tile whose raster it belongs to. Grid points of any tiles are the same only if they are
    the same one of the same tile, and from a tile to the next ones and within a tile they go east as `x` grows and
    north as `y` grows. -/
theorem gridPoint_lattice (hx : x < n) (hy : y < n) (hx' : x' < n) (hy' : y' < n) :
    (Fits32 t.lat → Fits32 t.lon → containing (gridPoint t x y n : Point K) = t) ∧
    ((gridPoint t x y n : Point K) = gridPoint u x' y' n ↔ t = u ∧ x = x' ∧ y = y') ∧
    ((gridPoint t x y n : Point K).lon < (gridPoint u x' y' n).lon ↔ t.lon < u.lon ∨ t.lon = u.lon ∧ x < x') ∧
    ((gridPoint t x y n : Point K).lat < (gridPoint u x' y' n).lat ↔ t.lat < u.lat ∨ t.lat = u.lat ∧ y < y') := by
  refine ⟨fun hlat hlon => containing_gridPoint hlat hlon hx hy, ?_, ?_, ?_⟩
  · constructor
    · intro heq
      have hlat := congrArg Point.lat heq
      have hlon := congrArg Point.lon heq
      rw [lat_gridPoint, lat_gridPoint, add_step_inj hy hy'] at hlat
      rw [lon_gridPoint, lon_gridPoint, add_step_inj hx hx'] at hlon
      obtain ⟨hlat, rfl⟩ := hlat
      obtain ⟨hlon, rfl⟩ := hlon
      cases t
      cases u
      cases hlat
      cases hlon
      exact ⟨rfl, rfl, rfl⟩
    · rintro ⟨rfl, rfl, rfl⟩
      rfl
  · rw [lon_gridPoint, lon_gridPoint, add_step_lt_iff hx hx']
  · rw [lat_gridPoint, lat_gridPoint, add_step_lt_iff hy hy']

/-- The last point in the last row of a tile south and west of zero, and the first one in that row of the next tile. -/
theorem gridPoint_lattice_southWest :
    containing (gridPoint ⟨-34, -71⟩ 299 299 300 : Point ℚ) = ⟨-34, -71⟩ ∧
      (gridPoint ⟨-34, -71⟩ 299 299 300 : Point ℚ).lon < (gridPoint ⟨-34, -70⟩ 0 299 300).lon ∧
      (gridPoint ⟨-34, -71⟩ 299 299 300 : Point ℚ) ≠ gridPoint ⟨-34, -70⟩ 0 299 300 := by
  have hlast : 299 < 300 := by decide
  have hfirst : 0 < 300 := by decide
  obtain ⟨hin, heq, heast, -⟩ :=
    gridPoint_lattice (K := ℚ) (t := ⟨-34, -71⟩) (u := ⟨-34, -70⟩) hlast hlast hfirst hlast
  exact ⟨hin ⟨by decide, by decide⟩ ⟨by decide, by decide⟩, heast.mpr (by decide), mt heq.mp (by decide)⟩

end AirspaceRaster.Tile
