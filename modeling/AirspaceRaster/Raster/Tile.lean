import AirspaceRaster.Geo.BoundingBox
import AirspaceRaster.Altitude
import AirspaceRaster.Number.Word
import AirspaceRaster.Text.Column

/-! Tiles of one degree by one degree, each with a file of its own. -/

namespace AirspaceRaster

/-- A tile by the whole degrees of its south-west corner. -/
structure Tile where
  lat : Int
  lon : Int
  deriving DecidableEq, Repr

namespace Tile

/-- Tiles are ordered from south to north and at one latitude from west to east. -/
instance : LT Tile where
  lt a b := a.lat < b.lat ∨ a.lat = b.lat ∧ a.lon < b.lon

instance : DecidableLT Tile := fun a b =>
  inferInstanceAs (Decidable (a.lat < b.lat ∨ a.lat = b.lat ∧ a.lon < b.lon))

theorem lt_def {a b : Tile} : a < b ↔ a.lat < b.lat ∨ a.lat = b.lat ∧ a.lon < b.lon :=
  Iff.rfl

/-- The name of the file, such as `N48E009.air`. Degrees south and west are written with a minus. -/
def fileName (t : Tile) : String :=
  "N" ++ Text.zeroFilled 2 t.lat ++ "E" ++ Text.zeroFilled 3 t.lon ++ ".air"

/-- The integers from `lo` to `hi`, both included. -/
def degrees (lo hi : Int) : List Int :=
  (List.range (hi + 1 - lo).toNat).map fun (i : Nat) => lo + i

/-- The place of the record of grid point `(x, y)` in a raster of `n` by `n` points. The raster starts
    with the northern row, which is the one with the largest `y`. -/
def cellOffset (x y n recordSize : Nat) : Nat :=
  Word.ofInt ((((n : Int) - 1 - y) * n + x) * recordSize)

theorem cellOffset_eq {x y n recordSize : Nat} (hy : y < n)
    (h : ((n - 1 - y) * n + x) * recordSize < Word.limit) :
    cellOffset x y n recordSize = ((n - 1 - y) * n + x) * recordSize := by
  have hn : (n : Int) - 1 - y = ((n - 1 - y : Nat) : Int) := by omega
  rw [cellOffset, hn]
  exact Word.ofInt_natCast h

variable {R : Type} [Scalar R]
open Scalar

/-- The whole degrees below a coordinate, as far as 32 bits reach. -/
def wholeDegrees (x : R) : Int :=
  (floor x).saturate (-2147483648) 2147483647

def containing (p : Point R) : Tile :=
  ⟨wholeDegrees p.lat, wholeDegrees p.lon⟩

/-- Whole degrees moved by some more, going round at the end of 32 bits. -/
def shifted (x : R) (steps : Int) : Int :=
  (wholeDegrees x + steps).bmod 4294967296

/-- The tiles of a box and one more on every side, in their order. -/
def covering (b : BoundingBox R) : List Tile :=
  (degrees (shifted b.bottom (-1)) (shifted b.top 1)).flatMap fun lat =>
    (degrees (shifted b.left (-1)) (shifted b.right 1)).map fun lon => ⟨lat, lon⟩

/-- Grid point `(x, y)` of a raster of `n` by `n` points, counted from the south-west corner. -/
def gridPoint (t : Tile) (x y n : Nat) : Point R where
  lat := ofInt t.lat + ofInt y / ofInt n
  lon := ofInt t.lon + ofInt x / ofInt n

end Tile

end AirspaceRaster
