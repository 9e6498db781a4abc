import AirspaceRaster.Geo.Ring

/-! Distances, bearings and nearest points along great circles of a spherical earth. Distances are in
    metres, bearings and coordinates in degrees. -/

namespace AirspaceRaster.GreatCircle

variable {R : Type} [Spherical R]
open Scalar Spherical

/-- The mean radius of the earth. -/
def earthRadius : R := ofInt 63710088 / ofInt 10

def radians (d : R) : R := d * (pi / ofInt 180)

def degrees (r : R) : R := r * (ofInt 180 / pi)

def square (x : R) : R := x * x

def distance (a b : Point R) : R :=
  let dlat := radians (b.lat - a.lat)
  let dlon := radians (b.lon - a.lon)
  let h := square (sin (dlat / ofInt 2))
    + cos (radians a.lat) * cos (radians b.lat) * square (sin (dlon / ofInt 2))
  earthRadius * (ofInt 2 * arcsin (sqrt h))

/-- The direction in which the great circle from `a` to `b` starts: zero for north, growing to the
    east. -/
def bearing (a b : Point R) : R :=
  let latA := radians a.lat
  let latB := radians b.lat
  let dlon := radians b.lon - radians a.lon
  degrees (arctan2 (cos latB * sin dlon)
    (cos latA * sin latB - sin latA * cos latB * cos dlon))

/-- The longitude brought back to one turn around the globe. -/
def normalizeLongitude (lon : R) : R :=
  remainder (lon + ofInt 540) (ofInt 360) - ofInt 180

/-- The point that is reached from `p` in some direction after some distance. -/
def destination (p : Point R) (bearing distance : R) : Point R :=
  let lat := radians p.lat
  let dir := radians bearing
  let arc := distance / earthRadius
  let lat' := arcsin (sin lat * cos arc + cos lat * sin arc * cos dir)
  let lon' := arctan2 (sin dir * sin arc * cos lat) (cos arc - sin lat * sin lat') + radians p.lon
  ⟨degrees lat', normalizeLongitude (degrees lon')⟩

/-- What is known of the point of a side that is nearest to some point. -/
inductive Nearest (R : Type) where
  /-- The point itself lies on the side. -/
  | touching (p : Point R)
  /-- The nearest point of the side. -/
  | at (p : Point R)

/-- A distance or an angle below this one, two to the power of -52, counts as zero. -/
def negligible : R := ofInt 1 / ofInt 4503599627370496

/-- Whether a point is infinitely far out. The longitude counts only if the latitude is defined. -/
def isInfinitelyFar (a : Point R) : Bool :=
  isInfinite a.lat || (isDefined a.lat && isInfinite a.lon)

/-- The point of the side from `a` to `b` that is nearest to `p`: the foot of the perpendicular if it
    falls on the side, else the nearer end. There is no foot on a side that starts infinitely far out,
    so its other end counts. The foot is undefined on a side that starts at an undefined point. -/
def nearestOnSide (p a b : Point R) : Nearest R :=
  if a == p then .touching a
  else if b == p then .touching b
  else if distance b a ≤ negligible then .at a
  else
    let towardB := radians (bearing a b)
    let towardA := if ofInt 0 < towardB then towardB - pi else towardB + pi
    let turnA := radians (bearing a p) - towardB
    let turnB := radians (bearing b p) - towardA
    let fromA := distance a p
    if isInfinitelyFar a = false ∧ ¬ cos turnA < ofInt 0 ∧ ¬ cos turnB < ofInt 0 then
      let across := abs (arcsin (sin (fromA / earthRadius) * sin turnA))
      let along := earthRadius * abs (arccos (cos (fromA / earthRadius) / cos across))
      if across < negligible then .touching p else .at (destination a (degrees towardB) along)
    else if fromA < distance b p then .at a
    else .at b

/-- The nearest of the sides' nearest points, the first on a tie. A side on which the point lies ends
    the search, and a point at an undefined distance does not take part in it. -/
def nearestOnSides (p : Point R) (best : Option (Point R × R)) :
    List (Point R × Point R) → Option (Point R)
  | [] => best.map Prod.fst
  | (a, b) :: rest =>
    match nearestOnSide p a b with
    | .touching q => some q
    | .at q =>
      let d := distance q p
      let isNearer := match best with
        | none => isDefined d
        | some (_, e) => decide (d < e)
      nearestOnSides p (if isNearer then some (q, d) else best) rest

/-- The point of a ring that is nearest to `p`, if the ring has a side. -/
def nearestOnRing? (r : Ring R) (p : Point R) : Option (Point R) :=
  nearestOnSides p none r.sides

end AirspaceRaster.GreatCircle
