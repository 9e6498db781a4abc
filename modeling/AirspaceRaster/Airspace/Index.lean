import AirspaceRaster.Airspace.Vector
import AirspaceRaster.Geo.GreatCircle

/-! Looking up the airspaces around a point. Around every airspace a search box is kept, grown by the
    radius of the search; the geometry on the globe is only worked out for the airspaces in whose
    search box the point lies. -/

namespace AirspaceRaster

variable {R : Type} [Spherical R]
open Scalar

/-- The vector of a point to an airspace of a table; none for a boundary without sides. A point on the
    boundary sees it in the north. -/
def AirspaceVector.ofPoint? (table : AirspaceTable R) (index : Fin table.size) (p : Point R) :
    Option (AirspaceVector table) :=
  (GreatCircle.nearestOnRing? table[index].boundary p).map fun q =>
    let distance := GreatCircle.distance p q
    let bearing := if ofInt 0 < distance then GreatCircle.bearing p q else ofInt 0
    measured index distance bearing (table[index].boundary.contains p)

/-- Airspaces prepared for being looked up around a point. -/
structure AirspaceIndex (R : Type) where
  table : AirspaceTable R
  /-- The distance in metres beyond which an airspace is ignored. -/
  radius : R
  /-- The airspaces that have a boundary, each with its box grown by the radius. -/
  searchBoxes : List (Fin table.size × BoundingBox R)

namespace AirspaceIndex

def defaultRadius : R := ofInt 100000

def ofTable (table : AirspaceTable R) (radius : R) : AirspaceIndex R where
  table := table
  radius := radius
  searchBoxes := (List.finRange table.size).filterMap fun i =>
    table[i].boundingBox?.map fun box => (i, box.expandedByMeters radius)

/-- The airspaces within the radius of a point, in the order of the table. -/
def vectorsNear (index : AirspaceIndex R) (p : Point R) : List (AirspaceVector index.table) :=
  index.searchBoxes.filterMap fun (i, box) =>
    if box.contains p then
      (AirspaceVector.ofPoint? index.table i p).filter fun v => !v.isBeyond index.radius
    else none

end AirspaceIndex

end AirspaceRaster
