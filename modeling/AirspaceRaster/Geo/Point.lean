import AirspaceRaster.Number.Scalar

/-! Points on the globe, given by latitude and longitude in degrees. -/

namespace AirspaceRaster

/-- A point by its latitude and longitude. -/
structure Point (R : Type) where
  lat : R
  lon : R
  deriving Repr

namespace Point
variable {R : Type}

/-- The point in the plane of the map, longitude first. -/
def onMap (p : Point R) : R × R :=
  (p.lon, p.lat)

/-- The point at a place in the plane of the map. -/
def ofMap (xy : R × R) : Point R :=
  ⟨xy.2, xy.1⟩

theorem ofMap_onMap (p : Point R) : ofMap p.onMap = p := rfl

variable [Scalar R]
open Scalar

instance : BEq (Point R) where
  beq p q := p.lat == q.lat && p.lon == q.lon

/-- Whether the point is on the globe: its latitude is within 90 degrees and its longitude within 180
    degrees of zero. -/
def isValid (p : Point R) : Bool :=
  isWithin (ofInt (-90)) (ofInt 90) p.lat && isWithin (ofInt (-180)) (ofInt 180) p.lon

end Point

end AirspaceRaster
