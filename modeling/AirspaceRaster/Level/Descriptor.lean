import AirspaceRaster.Airspace.Vector
import AirspaceRaster.Level.Byte
import AirspaceRaster.Text.Quoted

/-! One level of a grid point in its four bytes: floor, ceiling, bearing and distance. A level whose
    ceiling value is zero is not used. -/

namespace AirspaceRaster

/-- The four bytes of a level. -/
structure LevelDescriptor where
  floor : UInt8
  ceiling : UInt8
  bearing : UInt8
  distance : UInt8
  deriving DecidableEq, Repr

namespace LevelDescriptor

/-- The filling behind the last used level. -/
def padding : LevelDescriptor := ⟨0, 0, 0, 0⟩

/-- The bytes in the order of a record. -/
def toBytes (d : LevelDescriptor) : List UInt8 := [d.floor, d.ceiling, d.bearing, d.distance]

theorem length_toBytes (d : LevelDescriptor) : d.toBytes.length = levelSize := rfl

/-- Whether the level is not used. -/
def isEmpty (d : LevelDescriptor) : Bool := Byte.value d.ceiling == 0

/-- The level of an airspace as seen from a point. -/
def encode {R : Type} [Scalar R] {table : AirspaceTable R} (config : LevelConfig R)
    (v : AirspaceVector table) : LevelDescriptor where
  floor := Level.encodeAltitude v.floor config.altitudeStep
  ceiling := Level.encodeAltitude v.ceiling config.altitudeStep
  bearing := Level.encodeBearing v.bearing v.inside config.bearingStep
  distance := Level.encodeDistance v.distance config.distanceStep

/-- Whether a level looks like another one: at the same distance, and in a direction that differs by
    no more than the tolerance. The flag for inside is part of the direction. -/
def looksLike (tolerance : UInt8) (d e : LevelDescriptor) : Bool :=
  d.distance == e.distance &&
    max d.bearing.toNat e.bearing.toNat - min d.bearing.toNat e.bearing.toNat ≤ tolerance.toNat

def byteText (b : UInt8) : String :=
  let digits := (Text.hexadecimal b.toNat).toUpper
  "0x" ++ (if digits.length < 2 then "0" ++ digits else digits)

def text (d : LevelDescriptor) : String :=
  "LevelDescriptor([" ++ ", ".intercalate (d.toBytes.map byteText) ++ "])"

end LevelDescriptor

end AirspaceRaster
