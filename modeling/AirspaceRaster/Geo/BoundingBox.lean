import AirspaceRaster.Geo.Point

/-! Boxes along the meridians and parallels. A box that touches the ±180° meridian is not joined
    across it: an area beyond it gives a box around nearly the whole globe. -/

namespace AirspaceRaster

/-- The area between two meridians and two parallels. -/
structure BoundingBox (R : Type) where
  left : R
  top : R
  right : R
  bottom : R
  deriving Repr

namespace BoundingBox
variable {R : Type} [Scalar R]
open Scalar

/-- The length of a degree of latitude in metres by which margins are reckoned. -/
def metersPerDegree : R := ofInt 111320

def ofPoint (p : Point R) : BoundingBox R :=
  ⟨p.lon, p.lat, p.lon, p.lat⟩

/-- The smallest box around a box and a point. An undefined coordinate changes nothing. -/
def extend (b : BoundingBox R) (p : Point R) : BoundingBox R where
  left := least b.left p.lon
  right := greatest b.right p.lon
  top := greatest b.top p.lat
  bottom := least b.bottom p.lat

/-- The smallest box around two boxes. -/
def merge (b c : BoundingBox R) : BoundingBox R where
  left := least b.left c.left
  right := greatest b.right c.right
  top := greatest b.top c.top
  bottom := least b.bottom c.bottom

/-- The smallest box around some points; there is none around no point. -/
def ofPoints? : List (Point R) → Option (BoundingBox R)
  | [] => none
  | p :: ps => some (ps.foldl extend (ofPoint p))

/-- The smallest box around some boxes. -/
def mergeAll? : List (BoundingBox R) → Option (BoundingBox R)
  | [] => none
  | b :: bs => some (bs.foldl merge b)

/-- Whether a point lies in the box or on its border. -/
def contains (b : BoundingBox R) (p : Point R) : Bool :=
  isWithin b.bottom b.top p.lat && isWithin b.left b.right p.lon

theorem contains_iff {b : BoundingBox R} {p : Point R} : b.contains p = true ↔
    (b.bottom ≤ p.lat ∧ p.lat ≤ b.top) ∧ b.left ≤ p.lon ∧ p.lon ≤ b.right := by
  rw [contains, Bool.and_eq_true, isWithin_iff, isWithin_iff]

end BoundingBox

namespace BoundingBox
variable {R : Type} [Spherical R]
open Scalar

/-- The box grown by a distance in metres on every side. A degree of longitude is reckoned at the
    latitude nearest to a pole that the grown box reaches, at most at 89 degrees. -/
def expandedByMeters (b : BoundingBox R) (meters : R) : BoundingBox R :=
  let latMargin := meters / metersPerDegree
  let worstLat := greatest (abs b.top) (abs b.bottom) + latMargin
  let cosLat := Spherical.cos (least worstLat (ofInt 89) * (Spherical.pi / ofInt 180))
  let lonMargin := meters / (metersPerDegree * cosLat)
  { left := b.left - lonMargin
    top := b.top + latMargin
    right := b.right + lonMargin
    bottom := b.bottom - latMargin }

end BoundingBox

end AirspaceRaster
