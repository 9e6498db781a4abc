import AirspaceRaster.Geo.Point
import AirspaceRaster.Proofs.Number.Scientific

/-! Points on the globe, by the numbers that their coordinates stand for. An infinite or undefined coordinate is
    nowhere on it. -/

namespace AirspaceRaster.Point
open Binary64

variable {p : Point Float}

/-- A finite latitude between -90 and 90 with a finite longitude between -180 and 180. -/
def IsOnGlobe (p : Point Float) : Prop :=
  ∃ q r : ℚ, value? p.lat = some q ∧ value? p.lon = some r ∧ |q| ≤ 90 ∧ |r| ≤ 180

theorem isValid_iff_isOnGlobe : p.isValid = true ↔ p.IsOnGlobe := by
  rw [isValid, Bool.and_eq_true, isWithin_ofInt_iff (by decide) (by decide),
    isWithin_ofInt_iff (by decide) (by decide), IsOnGlobe]
  constructor
  · rintro ⟨⟨q, hq, hlat⟩, r, hr, hlon⟩
    exact ⟨q, r, hq, hr, hlat, hlon⟩
  · rintro ⟨q, r, hq, hr, hlat, hlon⟩
    exact ⟨⟨q, hq, hlat⟩, r, hr, hlon⟩

end AirspaceRaster.Point
