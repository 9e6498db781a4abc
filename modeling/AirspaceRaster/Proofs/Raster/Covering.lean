import AirspaceRaster.Proofs.Airspace.SearchBoxes
import AirspaceRaster.Proofs.Document.Accounted
import AirspaceRaster.Proofs.Geo.BoundingBox
import AirspaceRaster.Raster.Tile

/-! The tiles around all airspaces and the points near one of them, over the real numbers. In latitude a search
    box is grown by less than a degree, so a tile more on every side is enough. In longitude it is grown by more
    the nearer it comes to a pole, and there a point near an airspace may lie beyond the tiles that are covered. -/

namespace AirspaceRaster
open Exact

/-! ### Whole degrees -/

namespace Tile
variable {b : BoundingBox ℝ} {t : Tile} {x : ℝ} {lo hi n : Int} {p q : Point ℝ}

theorem mem_degrees : n ∈ degrees lo hi ↔ lo ≤ n ∧ n ≤ hi := by
  simp only [degrees, List.mem_map, List.mem_range]
  constructor
  · rintro ⟨i, hi, rfl⟩
    omega
  · rintro ⟨hlo, hhi⟩
    exact ⟨(n - lo).toNat, by omega, by omega⟩

theorem mem_covering {R : Type} [Scalar R] {b : BoundingBox R} : t ∈ covering b ↔
    t.lat ∈ degrees (shifted b.bottom (-1)) (shifted b.top 1) ∧
      t.lon ∈ degrees (shifted b.left (-1)) (shifted b.right 1) := by
  simp only [covering, List.mem_flatMap, List.mem_map]
  constructor
  · rintro ⟨lat, hlat, lon, hlon, rfl⟩
    exact ⟨hlat, hlon⟩
  · rintro ⟨hlat, hlon⟩
    exact ⟨t.lat, hlat, t.lon, hlon, rfl⟩

theorem floor_bounds {K : Type} [Field K] [LinearOrder K] [IsStrictOrderedRing K] [FloorRing K] {x : K}
    (hx : |x| ≤ 180) : -180 ≤ ⌊x⌋ ∧ ⌊x⌋ ≤ 180 := by
  obtain ⟨hlow, hhigh⟩ := abs_le.mp hx
  exact ⟨Int.le_floor.mpr (by simpa using hlow), Int.floor_le_iff.mpr (by push_cast; linarith)⟩

theorem wholeDegrees_eq (hx : |x| ≤ 180) : wholeDegrees x = ⌊x⌋ := by
  have := floor_bounds hx
  exact Whole.saturate_of (by omega) (by omega)

theorem shifted_eq (hx : |x| ≤ 180) {steps : Int} (hsteps : -1 ≤ steps ∧ steps ≤ 1) :
    shifted x steps = ⌊x⌋ + steps := by
  have := floor_bounds hx
  rw [shifted, wholeDegrees_eq hx, Int.bmod_eq_of_le] <;> omega

end Tile

/-! ### Points near airspaces -/

namespace AirspaceIndex

end AirspaceIndex

namespace Tile
open AirspaceIndex BoundingBox GreatCircle Real

end Tile

end AirspaceRaster
