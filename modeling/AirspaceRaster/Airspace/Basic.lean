import AirspaceRaster.Airspace.Class
import AirspaceRaster.Altitude
import AirspaceRaster.Geo.Ring

/-! Airspaces: an area on the map with a band of altitudes above it. -/

namespace AirspaceRaster

/-- An area with a floor and a ceiling. -/
structure Airspace (R : Type) where
  name : String
  category : AirspaceClass
  floor : Altitude
  ceiling : Altitude
  boundary : Ring R
  deriving Repr

/-- The airspaces of a document in their order. An airspace is known by its place in the table: two
    places are two airspaces, whatever their names. -/
abbrev AirspaceTable (R : Type) := Array (Airspace R)

namespace Airspace
variable {R : Type} [Scalar R]

/-- Whether an altitude lies in the band, which holds its floor but not its ceiling. -/
def bandContains (a : Airspace R) (h : Altitude) : Bool :=
  a.floor ≤ h && h < a.ceiling

/-- The airspace of a boundary, which is closed if it is open. -/
def ofBoundary (name : String) (category : AirspaceClass) (floor ceiling : Altitude)
    (points : List (Point R)) : Airspace R where
  name := name
  category := category
  floor := floor
  ceiling := ceiling
  boundary := Ring.ofBoundary points

/-- The smallest box around the boundary; there is none around an empty one. -/
def boundingBox? (a : Airspace R) : Option (BoundingBox R) :=
  a.boundary.boundingBox?

end Airspace

def AirspaceTable.boundingBox? {R : Type} [Scalar R] (table : AirspaceTable R) :
    Option (BoundingBox R) :=
  BoundingBox.mergeAll? (table.toList.filterMap Airspace.boundingBox?)

end AirspaceRaster
