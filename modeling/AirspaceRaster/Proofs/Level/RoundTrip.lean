import Mathlib.Data.Rat.Floor
import AirspaceRaster.Level.Decoded
import AirspaceRaster.Proofs.Airspace.Measured
import AirspaceRaster.Proofs.Band.Choice
import AirspaceRaster.Proofs.Level.Quantized

/-! Levels that are written and read back, over exact numbers. Reading recovers every field as far as the steps
    of its byte tell it apart, and writing what was read gives the same four bytes again. -/

namespace AirspaceRaster
open Exact

namespace LevelDescriptor
variable {R : Type} [Scalar R] {config : LevelConfig R} {d : LevelDescriptor} {l : DecodedLevel R}

theorem decode?_eq_none_iff : d.decode? config = none ↔ Byte.value d.ceiling = 0 := by
  rw [decode?, isEmpty]
  split_ifs with h
  · exact iff_of_true rfl (beq_iff_eq.mp h)
  · exact iff_of_false nofun fun hzero => h (beq_iff_eq.mpr hzero)

theorem decode?_eq_some (h : d.decode? config = some l) :
    l.floor = Level.decodeAltitude d.floor config.altitudeStep ∧ l.ceiling = d.decodeCeiling config ∧
      l.bearing = Scalar.ofInt (Byte.value d.bearing) * config.bearingStep ∧ l.inside = Byte.flag d.bearing ∧
      l.distance = Scalar.ofInt d.distance.toNat * config.distanceStep := by
  rw [decode?] at h
  split_ifs at h
  cases h
  exact ⟨rfl, rfl, rfl, rfl, rfl⟩

end LevelDescriptor

variable {K : Type} [Field K] [LinearOrder K] [IsStrictOrderedRing K] [FloorRing K] {table : AirspaceTable K}
  {config : LevelConfig K} {v : AirspaceVector table} {l : DecodedLevel K} {slots : Int}

/-! ### Reading what was written -/

/-- The upper limit `a` is read back as this ceiling: a limit of less than 127 steps with an error of half a step
    and half a foot, a higher one as none at all. -/
inductive Ceiling.Recovers (step : K) (a : Altitude) : Ceiling → Prop
  | limited {b : Altitude} (reference : b.reference = a.reference)
      (below : Level.steps (a.feet : K) step < Byte.maxValue)
      (near : |(b.feet : K) - a.feet| ≤ step / 2 + 1 / 2) : Recovers step a (.limited b)
  | unlimited {r : Reference} (reference : r = a.reference)
      (beyond : Byte.maxValue ≤ Level.steps (a.feet : K) step) : Recovers step a (.unlimited r)

/-- A level says of a vector what the steps of the bytes can tell. -/
structure DecodedLevel.Recovers (config : LevelConfig K) (v : AirspaceVector table) (l : DecodedLevel K) : Prop where
  floorReference : l.floor.reference = v.floor.reference
  floor : Level.RecoveredFeet config.altitudeStep v.floor.feet l.floor.feet
  ceiling : l.ceiling.Recovers config.altitudeStep v.ceiling
  inside : l.inside = v.inside
  bearing : Level.angleBetween l.bearing v.bearing ≤ config.bearingStep
  bearingOfWhole : (∃ n : Int, n * config.bearingStep = 360) →
    Level.angleBetween l.bearing v.bearing ≤ config.bearingStep / 2
  distance : v.distance ≤ 255 * config.distanceStep → |l.distance - v.distance| ≤ config.distanceStep / 2
  distanceBeyond : 255 * config.distanceStep < v.distance → l.distance = 255 * config.distanceStep

namespace LevelDescriptor

theorem recovers_decodeCeiling (hs : 0 < config.altitudeStep) (ha : v.ceiling.feet ≤ Altitude.maxFeet)
    (hused : 0 < Level.steps (v.ceiling.feet : K) config.altitudeStep) :
    ((encode config v).decodeCeiling config).Recovers config.altitudeStep v.ceiling := by
  have hreference := Level.reference_decodeAltitude v.ceiling config.altitudeStep
  have hvalue := Level.value_encodeAltitude v.ceiling config.altitudeStep
  show (if Byte.value (Level.encodeAltitude v.ceiling config.altitudeStep) = Byte.maxValue then _ else _ : Ceiling).Recovers
    config.altitudeStep v.ceiling
  rw [hvalue]
  split_ifs with hmax
  · exact .unlimited hreference (Level.altitudeValue_eq_maxValue_iff.mp hmax)
  · have hlt : Level.steps (v.ceiling.feet : K) config.altitudeStep < Byte.maxValue :=
      not_le.mp fun h => hmax (Level.altitudeValue_eq_maxValue_iff.mpr h)
    refine .limited hreference hlt ((Level.recoveredFeet_decodeAltitude hs ha).within ?_ ?_)
    · -- A limit below zero would be rounded to zero steps.
      by_contra hneg
      have : (v.ceiling.feet : K) ≤ (0 : Int) * config.altitudeStep := by
        rw [Int.cast_zero, zero_mul]
        exact_mod_cast (not_le.mp hneg).le
      have := Level.steps_le_of_le hs this
      omega
    · by_contra hbeyond
      have : (Byte.maxValue : Int) ≤ Level.steps (v.ceiling.feet : K) config.altitudeStep :=
        Level.le_steps_of_le hs (by simpa using (not_le.mp hbeyond).le)
      omega

theorem recovers_of_decode? (hfloor : v.floor.feet ≤ Altitude.maxFeet) (hceiling : v.ceiling.feet ≤ Altitude.maxFeet)
    (ha : 0 < config.altitudeStep) (hb : 0 < config.bearingStep) (hd : 0 < config.distanceStep)
    (hslots : Level.bearingSlots config.bearingStep = .of slots) (hpos : 1 ≤ slots) (hroom : slots ≤ 128)
    (hb₀ : 0 ≤ v.bearing) (hb₁ : v.bearing < 360) (hd₀ : 0 ≤ v.distance)
    (h : (encode config v).decode? config = some l) : l.Recovers config v := by
  have hused : 0 < Level.steps (v.ceiling.feet : K) config.altitudeStep := by
    by_contra hzero
    have hnone : (encode config v).decode? config = none := by
      rw [decode?_eq_none_iff]
      exact (Level.value_encodeAltitude ..).trans (Level.altitudeValue_eq_zero_iff_steps.mpr (not_lt.mp hzero))
    rw [hnone] at h
    cases h
  obtain ⟨hlfloor, hlceiling, hlbearing, hlinside, hldistance⟩ := decode?_eq_some h
  have hbearing : l.bearing = Level.bearingValue v.bearing config.bearingStep * config.bearingStep := by
    rw [hlbearing, ofInt_natCast]
    exact congrArg (fun n : Nat => (n : K) * config.bearingStep) (Level.value_encodeBearing ..)
  have hdistance : l.distance = Level.distanceValue v.distance config.distanceStep * config.distanceStep := by
    rw [hldistance, ofInt_natCast]
    exact congrArg (fun n : Nat => (n : K) * config.distanceStep) Level.toNat_encodeDistance
  have hsteps := Level.recovered_upTo hd 255 v.distance
  have hangle := Level.angleBetween_bearingValue hb hslots hpos hroom hb₀ hb₁
  refine ⟨?_, ?_, ?_, ?_, ?_, ?_, fun hnear => ?_, fun hfar => ?_⟩
  · rw [hlfloor]
    exact Level.reference_decodeAltitude ..
  · rw [hlfloor]
    exact Level.recoveredFeet_decodeAltitude ha hfloor
  · rw [hlceiling]
    exact recovers_decodeCeiling ha hceiling hused
  · rw [hlinside]
    exact Level.flag_encodeBearing ..
  · rw [hbearing]
    exact hangle.1
  · rw [hbearing]
    exact hangle.2
  · rw [hdistance]
    exact hsteps.within hd₀ hnear
  · rw [hdistance]
    exact hsteps.above hfar

/-- The level of a vector is read back as unused if its ceiling is rounded to no step, and else as a level that
    says of every field what its steps can tell. Altitudes are limited as everywhere. -/
theorem decode?_encode (hv : v.IsMeasured) (hfloor : v.floor.feet ≤ Altitude.maxFeet)
    (hceiling : v.ceiling.feet ≤ Altitude.maxFeet) (ha : 0 < config.altitudeStep) (hb : 0 < config.bearingStep)
    (hd : 0 < config.distanceStep) (hslots : Level.bearingSlots config.bearingStep = .of slots) (hpos : 1 ≤ slots)
    (hroom : slots ≤ 128) :
    ((encode config v).decode? config = none ↔ Level.steps (v.ceiling.feet : K) config.altitudeStep ≤ 0) ∧
    ∀ l, (encode config v).decode? config = some l → l.Recovers config v := by
  obtain ⟨index, distance, bearing, inside, rfl⟩ := hv
  refine ⟨?_, fun l h => ?_⟩
  · rw [decode?_eq_none_iff, ← Level.altitudeValue_eq_zero_iff_steps]
    exact iff_of_eq (congrArg (· = 0) (Level.value_encodeAltitude ..))
  · exact recovers_of_decode? hfloor hceiling ha hb hd hslots hpos hroom AirspaceVector.bearing_measured_nonneg
      AirspaceVector.bearing_measured_lt AirspaceVector.distance_measured_nonneg h

/-- Steps of 100 feet, 7 degrees and 64 metres, of which 51 make a turn and not quite. -/
def coarse : LevelConfig ℚ where
  levels := 1
  altitudeStep := 100
  bearingStep := 7
  distanceStep := 64
  bearingTolerance := 5

theorem bearingSlots_coarse : Level.bearingSlots coarse.bearingStep = .of 51 := by
  decide +kernel

/-- A floor below the range of its byte, a ceiling and a distance above theirs, and a bearing that is rounded up
    to a full turn. -/
def outOfRange : AirspaceVector (.ofBands [(-300, 99999)] : AirspaceTable ℚ) :=
  .measured ⟨0, by decide⟩ 17000 (-19 / 10) true

theorem decode?_encode_outOfRange :
    (encode coarse outOfRange).decode? coarse = some ⟨⟨0, .sea⟩, .unlimited .sea, 0, true, 16320⟩ ∧
      DecodedLevel.Recovers coarse outOfRange ⟨⟨0, .sea⟩, .unlimited .sea, 0, true, 16320⟩ := by
  have hread : (encode coarse outOfRange).decode? coarse = some ⟨⟨0, .sea⟩, .unlimited .sea, 0, true, 16320⟩ := by
    decide +kernel
  exact ⟨hread, (decode?_encode ⟨_, _, _, _, rfl⟩ (by decide) (by decide) (by decide +kernel) (by decide +kernel) (by decide +kernel)
    bearingSlots_coarse (by decide) (by decide)).2 _ hread⟩

end LevelDescriptor

/-! ### Writing what was read -/

/-- An upper limit that a ceiling may stand for: the limit itself, or any one that is too high for its byte. -/
def Ceiling.StandsFor (step : K) (a : Altitude) : Ceiling → Prop
  | .limited b => a = b
  | .unlimited r => a.reference = r ∧ Byte.maxValue * step ≤ a.feet

namespace LevelDescriptor
variable {table' : AirspaceTable K} {index : Fin table'.size} {d : LevelDescriptor}

theorem encodeAltitude_of_standsFor {a : Altitude} (hs : 1 ≤ config.altitudeStep)
    (hmax : Byte.maxValue * config.altitudeStep ≤ Altitude.maxFeet)
    (ha : (d.decodeCeiling config).StandsFor config.altitudeStep a) :
    Level.encodeAltitude a config.altitudeStep = d.ceiling := by
  rw [decodeCeiling] at ha
  split_ifs at ha with hvalue
  · obtain ⟨hreference, hfeet⟩ := ha
    have hsteps : (Byte.maxValue : Int) ≤ Level.steps (a.feet : K) config.altitudeStep :=
      Level.le_steps_of_le (one_pos.trans_le hs) (by simpa using hfeet)
    have hflag : a.isAboveGround = Byte.flag d.ceiling := by
      rw [Altitude.isAboveGround, hreference]
      cases Byte.flag d.ceiling <;> rfl
    rw [Level.encodeAltitude, Level.altitudeValue_eq_maxValue_iff.mpr hsteps, ← hvalue, hflag, Byte.pack_value_flag]
  · obtain rfl : a = Level.decodeAltitude d.ceiling config.altitudeStep := ha
    exact Level.encodeAltitude_decodeAltitude _ hs hmax

/-- Four bytes with a bearing of one turn are written again by a vector of what was read from them. -/
theorem encode_of_decode? (ha : 1 ≤ config.altitudeStep)
    (hmax : Byte.maxValue * config.altitudeStep ≤ Altitude.maxFeet)
    (hslots : Level.bearingSlots config.bearingStep = .of slots) (hroom : slots ≤ 128)
    (hd : 0 < config.distanceStep) (hturn : Byte.value d.bearing < slots)
    (h : d.decode? config = some l) (hfloor : table'[index].floor = l.floor)
    (hceiling : l.ceiling.StandsFor config.altitudeStep table'[index].ceiling) :
    AirspaceVector.measured index l.distance l.bearing l.inside = ⟨index, l.distance, l.bearing, l.inside⟩ ∧
      encode config (.measured index l.distance l.bearing l.inside) = d := by
  obtain ⟨hlfloor, hlceiling, hlbearing, hlinside, hldistance⟩ := decode?_eq_some h
  rw [ofInt_natCast] at hlbearing hldistance
  have hb := Level.bearingStep_pos hslots (by omega)
  have hkept : AirspaceVector.measured index l.distance l.bearing l.inside =
      ⟨index, l.distance, l.bearing, l.inside⟩ := by
    refine AirspaceVector.measured_eq ?_ ?_ ?_
    · rw [hldistance]
      exact mul_nonneg (Nat.cast_nonneg _) hd.le
    · rw [hlbearing]
      exact mul_nonneg (Nat.cast_nonneg _) hb.le
    · rw [hlbearing]
      exact Level.bearing_lt_turn hslots hturn
  refine ⟨hkept, ?_⟩
  rw [hkept]
  have hf : Level.encodeAltitude table'[index].floor config.altitudeStep = d.floor := by
    rw [hfloor, hlfloor]
    exact Level.encodeAltitude_decodeAltitude _ ha hmax
  have hc : Level.encodeAltitude table'[index].ceiling config.altitudeStep = d.ceiling := by
    rw [hlceiling] at hceiling
    exact encodeAltitude_of_standsFor ha hmax hceiling
  have hbearing : Level.encodeBearing l.bearing l.inside config.bearingStep = d.bearing := by
    rw [Level.encodeBearing, hlbearing, hlinside, Level.bearingValue_mul hslots hroom hturn, Byte.pack_value_flag]
  have hdistance : Level.encodeDistance l.distance config.distanceStep = d.distance := by
    rw [Level.encodeDistance, hldistance, Level.distanceValue_mul hd (by have := d.distance.toNat_lt; omega)]
    exact UInt8.ofNat_toNat
  calc encode config ⟨index, l.distance, l.bearing, l.inside⟩
      = ⟨Level.encodeAltitude table'[index].floor config.altitudeStep,
          Level.encodeAltitude table'[index].ceiling config.altitudeStep,
          Level.encodeBearing l.bearing l.inside config.bearingStep,
          Level.encodeDistance l.distance config.distanceStep⟩ := rfl
    _ = d := by rw [hf, hc, hbearing, hdistance]

/-- A vector of what is read back from the level of any vector has the same level. It holds these values just as
    they were read. -/
theorem encode_decode?_encode (ha : 1 ≤ config.altitudeStep)
    (hmax : Byte.maxValue * config.altitudeStep ≤ Altitude.maxFeet)
    (hslots : Level.bearingSlots config.bearingStep = .of slots) (hpos : 1 ≤ slots) (hroom : slots ≤ 128)
    (hd : 0 < config.distanceStep) (h : (encode config v).decode? config = some l)
    (hfloor : table'[index].floor = l.floor)
    (hceiling : l.ceiling.StandsFor config.altitudeStep table'[index].ceiling) :
    AirspaceVector.measured index l.distance l.bearing l.inside = ⟨index, l.distance, l.bearing, l.inside⟩ ∧
      encode config (.measured index l.distance l.bearing l.inside) = encode config v := by
  refine encode_of_decode? ha hmax hslots hroom hd ?_ h hfloor hceiling
  have hvalue : Byte.value (encode config v).bearing = Level.bearingValue v.bearing config.bearingStep :=
    Level.value_encodeBearing ..
  rw [hvalue]
  exact Level.bearingValue_lt v.bearing hslots hpos

/-- Steps of one foot and a half and of 100 degrees, of which 4 make a turn and a little more. -/
def uneven : LevelConfig ℚ where
  levels := 1
  altitudeStep := 3 / 2
  bearingStep := 100
  distanceStep := 64
  bearingTolerance := 5

/-- A floor of 5 steps is read as 8 feet and a ceiling of 6 steps as 9 feet. -/
def low : AirspaceVector (.ofBands [(7, 9)] : AirspaceTable ℚ) :=
  .measured ⟨0, by decide⟩ 100 310 true

/-- An airspace with the limits that are read. -/
def lowAgain : AirspaceTable ℚ := .ofBands [(8, 9)]

theorem encode_decode?_encode_low :
    (encode uneven low).decode? uneven = some ⟨⟨8, .sea⟩, .limited ⟨9, .sea⟩, 300, true, 128⟩ ∧
      encode uneven (.measured ⟨0, by decide⟩ 128 300 true : AirspaceVector lowAgain) = encode uneven low := by
  have hread : (encode uneven low).decode? uneven = some ⟨⟨8, .sea⟩, .limited ⟨9, .sea⟩, 300, true, 128⟩ := by
    decide +kernel
  have hslots : Level.bearingSlots uneven.bearingStep = .of 4 := by
    decide +kernel
  have hfloor : lowAgain[(⟨0, by decide⟩ : Fin lowAgain.size)].floor = ⟨8, .sea⟩ := rfl
  have hceiling : Ceiling.StandsFor uneven.altitudeStep lowAgain[(⟨0, by decide⟩ : Fin lowAgain.size)].ceiling
      (.limited ⟨9, .sea⟩) := rfl
  exact ⟨hread, (encode_decode?_encode (by decide +kernel) (by decide +kernel) hslots (by decide) (by decide)
    (by decide +kernel) hread hfloor hceiling).2⟩

end LevelDescriptor

end AirspaceRaster
