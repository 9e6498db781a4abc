import AirspaceRaster.Geo.BoundingBox

/-! Rings: the boundary of an area as the list of its corners, the first one repeated at the end. -/

namespace AirspaceRaster

/-- The corners of a boundary in order, back to the first one. -/
structure Ring (R : Type) where
  corners : List (Point R)
  deriving Repr

namespace Ring
variable {R : Type} [Scalar R]
open Scalar

/-- Whether a boundary ends where it starts; one without corners does. -/
def isClosed (points : List (Point R)) : Bool :=
  points.head? == points.getLast?

/-- The ring of a boundary, closed with the first corner if it is open. -/
def ofBoundary (points : List (Point R)) : Ring R :=
  ⟨if isClosed points then points else points ++ points.head?.toList⟩

/-- The sides of the ring, each from its start to its end. -/
def sides (r : Ring R) : List (Point R × Point R) :=
  r.corners.zip r.corners.tail

/-- A range of numbers stretched to hold one more; an undefined one changes nothing, and neither does
    any number change an undefined range. -/
def stretch (range : R × R) (x : R) : R × R :=
  if range.2 < x then (range.1, x)
  else if x < range.1 then (x, range.2)
  else range

/-- The smallest box around the corners; there is none without corners. -/
def boundingBox? (r : Ring R) : Option (BoundingBox R) :=
  match r.corners with
  | [] => none
  | p :: ps =>
    let lon := (ps.map Point.lon).foldl stretch (p.lon, p.lon)
    let lat := (ps.map Point.lat).foldl stretch (p.lat, p.lat)
    some ⟨lon.1, lat.2, lon.2, lat.1⟩

end Ring

namespace Ring
variable {R : Type} [Spherical R]
open Scalar

/-- Whether a number lies between two others, in whichever order these are. -/
def isBetween (x a b : R) : Bool :=
  if a < b then isWithin a b x else isWithin b a x

/-- What a side adds to the winding number around a point, in the plane of the map: one if it passes
    the point to the right going north, minus one going south, zero if it does not pass there, and
    none if the point lies on it. A side includes its southern end and excludes its northern one. -/
def crossing (p a b : Point R) : Option Int :=
  if a.lat ≤ p.lat then
    if p.lat ≤ b.lat then
      match Spherical.orientation a.onMap b.onMap p.onMap with
      | .gt => some (if b.lat == p.lat then 0 else 1)
      | .eq => if isBetween p.lon a.lon b.lon then none else some 0
      | .lt => some 0
    else some 0
  else if b.lat ≤ p.lat then
    match Spherical.orientation a.onMap b.onMap p.onMap with
    | .lt => some (-1)
    | .eq => if isBetween p.lon a.lon b.lon then none else some 0
    | .gt => some 0
  else some 0

/-- The number of turns that the ring makes around a point; none for a point on the ring. -/
def windingNumber? (r : Ring R) (p : Point R) : Option Int :=
  (r.sides.mapM fun (a, b) => crossing p a b).map (List.foldr (· + ·) 0)

/-- Whether a point lies inside the ring. A point on the ring does not. -/
def contains (r : Ring R) (p : Point R) : Bool :=
  (r.windingNumber? p).any (· ≠ 0)

end Ring

end AirspaceRaster
