import AirspaceRaster.Airspace.Basic

/-! Where an airspace lies as seen from a point: how far its boundary is, in which direction, and
    whether the point is inside. -/

namespace AirspaceRaster

/-- The relation of a point to one airspace of a table. -/
structure AirspaceVector {R : Type} (table : AirspaceTable R) where
  /-- The place of the airspace in the table. -/
  index : Fin table.size
  /-- The distance to the boundary in metres. -/
  distance : R
  /-- The bearing of the nearest point of the boundary in degrees. -/
  bearing : R
  /-- Whether the point is inside the boundary. -/
  inside : Bool
  deriving DecidableEq

namespace AirspaceVector
variable {R : Type} {table : AirspaceTable R}

def airspace (v : AirspaceVector table) : Airspace R := table[v.index]

def floor (v : AirspaceVector table) : Altitude := v.airspace.floor

def ceiling (v : AirspaceVector table) : Altitude := v.airspace.ceiling

/-- Whether the airspace holds an altitude in its band. -/
def covers (v : AirspaceVector table) (h : Altitude) : Bool := v.airspace.bandContains h

def sameAirspace (v w : AirspaceVector table) : Bool := v.index == w.index

theorem sameAirspace_iff {v w : AirspaceVector table} :
    v.sameAirspace w = true ↔ v.index = w.index := by
  simp [sameAirspace]

variable [Scalar R]
open Scalar

/-- A direction brought to `[0, 360)`. A tiny negative one would round to a full turn, which is
    north again. -/
def normalizeBearing (b : R) : R :=
  let r := modulo b (ofInt 360)
  if ofInt 360 ≤ r then ofInt 0 else r

/-- The vector of some distance and bearing. The bearing is brought to `[0, 360)`, and a distance that
    is not above zero becomes zero. -/
def measured (index : Fin table.size) (distance bearing : R) (inside : Bool) :
    AirspaceVector table where
  index := index
  distance := if ofInt 0 < distance then distance else ofInt 0
  bearing := normalizeBearing bearing
  inside := inside

def isBeyond (v : AirspaceVector table) (radius : R) : Bool := radius < v.distance

end AirspaceVector

end AirspaceRaster
