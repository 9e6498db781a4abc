import AirspaceRaster.Altitude
import AirspaceRaster.Level.Config

/-! The bytes of a level. A byte for an altitude or a bearing holds a value of seven bits and a flag in
    the eighth, a byte for a distance a value of eight bits. A value is the number of steps, rounded
    and limited to what the byte can hold. -/

namespace AirspaceRaster

namespace Byte

/-- The largest value beside a flag. -/
def maxValue : Nat := 127

/-- The byte of a value up to 127 and a flag. -/
def pack (value : Nat) (flag : Bool) : UInt8 :=
  UInt8.ofNat (value + if flag then 128 else 0)

/-- The value in the low seven bits. -/
def value (b : UInt8) : Nat := b.toNat % 128

/-- The flag in the high bit. -/
def flag (b : UInt8) : Bool := 128 ≤ b.toNat

theorem toNat_pack {v : Nat} (h : v ≤ maxValue) (f : Bool) :
    (pack v f).toNat = v + if f then 128 else 0 := by
  simp only [maxValue] at h
  cases f <;> simp [pack] <;> omega

theorem value_pack {v : Nat} (h : v ≤ maxValue) (f : Bool) : value (pack v f) = v := by
  rw [value, toNat_pack h]
  simp only [maxValue] at h
  cases f <;> simp <;> omega

theorem flag_pack {v : Nat} (h : v ≤ maxValue) (f : Bool) : flag (pack v f) = f := by
  rw [flag, toNat_pack h]
  simp only [maxValue] at h
  cases f
  · simp; omega
  · simp

theorem value_le (b : UInt8) : value b ≤ maxValue := by
  simp only [value, maxValue]; omega

end Byte

namespace Level

variable {R : Type} [Scalar R]
open Scalar

/-- The steps of an altitude, as far as a byte reaches. -/
def altitudeValue (a : Altitude) (step : R) : Nat :=
  (nearest (ofInt a.feet / step)).upTo Byte.maxValue

/-- The byte of an altitude; its flag marks the ground as the reference. -/
def encodeAltitude (a : Altitude) (step : R) : UInt8 :=
  Byte.pack (altitudeValue a step) a.isAboveGround

/-- The altitude of a byte, rounded to whole feet. -/
def decodeAltitude (b : UInt8) (step : R) : Altitude where
  feet := (nearest (ofInt (Byte.value b) * step)).saturate Altitude.minFeet Altitude.maxFeet
  reference := Reference.ofFlag (Byte.flag b)

/-- The number of steps in a full turn. -/
def bearingSlots (step : R) : Whole :=
  nearest (ofInt 360 / step)

/-- The steps of a bearing within one turn, as far as a byte reaches. A bearing that rounds up to a
    full turn is north. -/
def bearingValue (bearing step : R) : Nat :=
  ((nearest (bearing / step)).modulo (bearingSlots step)).upTo Byte.maxValue

/-- The byte of a bearing; its flag marks a point inside the airspace. -/
def encodeBearing (bearing : R) (inside : Bool) (step : R) : UInt8 :=
  Byte.pack (bearingValue bearing step) inside

/-- The steps of a distance, at most 255. -/
def distanceValue (distance step : R) : Nat :=
  (nearest (distance / step)).upTo 255

def encodeDistance (distance step : R) : UInt8 :=
  UInt8.ofNat (distanceValue distance step)

end Level

end AirspaceRaster
