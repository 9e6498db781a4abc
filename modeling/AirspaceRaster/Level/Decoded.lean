import AirspaceRaster.Decimal.Notation
import AirspaceRaster.Level.Descriptor

/-! A level as it is read back from its bytes, with every value at the middle of its step. -/

namespace AirspaceRaster

/-- The upper end of a level. -/
inductive Ceiling where
  | limited (a : Altitude)
  /-- The largest value of the byte stands for no limit at all. -/
  | unlimited (r : Reference)
  deriving DecidableEq, Repr

def Ceiling.text : Ceiling → String
  | limited a => toString a.feet ++ " " ++ a.reference.label
  | unlimited r => "MAX " ++ r.label

/-- A level with its values in feet, degrees and metres. -/
structure DecodedLevel (R : Type) where
  floor : Altitude
  ceiling : Ceiling
  bearing : R
  inside : Bool
  distance : R
  deriving DecidableEq

namespace LevelDescriptor
variable {R : Type} [Scalar R]

/-- The ceiling of a level. -/
def decodeCeiling (config : LevelConfig R) (d : LevelDescriptor) : Ceiling :=
  if Byte.value d.ceiling = Byte.maxValue then .unlimited (Reference.ofFlag (Byte.flag d.ceiling))
  else .limited (Level.decodeAltitude d.ceiling config.altitudeStep)

/-- The values of a level; none if it is not used. -/
def decode? (config : LevelConfig R) (d : LevelDescriptor) : Option (DecodedLevel R) :=
  if d.isEmpty then none
  else some {
    floor := Level.decodeAltitude d.floor config.altitudeStep
    ceiling := d.decodeCeiling config
    bearing := Scalar.ofInt (Byte.value d.bearing) * config.bearingStep
    inside := Byte.flag d.bearing
    distance := Scalar.ofInt d.distance.toNat * config.distanceStep }

end LevelDescriptor

def DecodedLevel.text (l : DecodedLevel Float) : String :=
  "floor=" ++ toString l.floor.feet ++ " " ++ l.floor.reference.label ++
  " ceil=" ++ l.ceiling.text ++
  " angle=" ++ Decimal.plain l.bearing ++
  " distance=" ++ Decimal.plain l.distance ++
  (if l.inside then " INSIDE!" else "")

end AirspaceRaster
