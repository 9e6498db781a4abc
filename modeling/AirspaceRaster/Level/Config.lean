import AirspaceRaster.Number.Scalar
import AirspaceRaster.Number.Word

/-! The settings of the level format: how many levels a grid point has, and what one step of each byte
    stands for. -/

namespace AirspaceRaster

def levelSize : Nat := 4

/-- The budget of levels and the steps of the bytes. -/
structure LevelConfig (R : Type) where
  /-- The levels of every grid point. -/
  levels : Nat
  /-- The feet of one step of a floor or ceiling byte. -/
  altitudeStep : R
  /-- The degrees of one step of a bearing byte. -/
  bearingStep : R
  /-- The metres of one step of a distance byte. -/
  distanceStep : R
  /-- The largest difference of bearing bytes that counts as the same direction. -/
  bearingTolerance : UInt8
  deriving Repr

namespace LevelConfig
variable {R : Type}

/-- Five levels with steps of 250 feet, 3 degrees and 64 metres, and a tolerance of five steps. -/
def standard [Scalar R] : LevelConfig R where
  levels := 5
  altitudeStep := Scalar.ofInt 250
  bearingStep := Scalar.ofInt 3
  distanceStep := Scalar.ofInt 64
  bearingTolerance := 5

/-- The bytes of one grid point. -/
def recordSize (c : LevelConfig R) : Nat := c.levels * levelSize % Word.limit

/-- The levels that these bytes have room for: the whole budget, unless its bytes cannot be counted. -/
def slots (c : LevelConfig R) : Nat := c.recordSize / levelSize

theorem slots_mul_levelSize (c : LevelConfig R) : c.slots * levelSize = c.recordSize := by
  simp only [slots, recordSize, levelSize, Word.limit]; omega

theorem slots_eq_levels_iff {c : LevelConfig R} :
    c.slots = c.levels ↔ c.levels * levelSize < Word.limit := by
  simp only [slots, recordSize, levelSize, Word.limit]; omega

end LevelConfig

end AirspaceRaster
