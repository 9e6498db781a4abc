import Mathlib.Data.Rat.Floor
import AirspaceRaster.Proofs.Band.SheddingOrder
import AirspaceRaster.Proofs.Level.Monotone

/-! What the order of the bytes says about airspaces. Counting steps is monotone, so a level never starts above its
    ceiling, and the airspaces that are shed as the farthest ones are never told to be nearer than one that stays,
    although several distances have one byte. -/

namespace AirspaceRaster
open HeightBands Sweep

/-! ### What is shed -/

namespace HeightBands

variable {R : Type} [Scalar R] [Scalar.Ordered R] {table : AirspaceTable R} {b c : HeightBands table} {levels : Nat}
  {point : Point R} {e f : Altitude × AirspaceVector table}

theorem Agreeing.exists_eq_withoutFirst (hb : b.Agreeing) (htrim : b.trim levels point = .ok c) :
    ∃ n, c = b.withoutFirst n := by
  obtain ⟨rfl, -⟩ := trim_eq_ok_iff.mp htrim
  obtain ⟨n, -, hshed, -⟩ := hb.exists_shed_eq_withoutFirst levels
  exact ⟨n, hshed⟩

theorem Agreeing.index_ne_of_dropped (hb : b.Agreeing) (htrim : b.trim levels point = .ok c) (he : e ∈ b.toList)
    (hgone : e ∉ c.toList) (hf : f ∈ c.toList) : f.2.index ≠ e.2.index := by
  obtain ⟨n, rfl⟩ := hb.exists_eq_withoutFirst htrim
  intro hidx
  exact hgone (mem_withoutFirst_of_index he hf hidx.symm)

theorem Agreeing.distance_le_of_dropped (hb : b.Agreeing) (htrim : b.trim levels point = .ok c) (he : e ∈ b.toList)
    (hgone : e ∉ c.toList) (hf : f ∈ c.toList) (hout : f.2.inside = false) : f.2.distance ≤ e.2.distance := by
  obtain ⟨n, rfl⟩ := hb.exists_eq_withoutFirst htrim
  exact hb.distance_le_of_not_mem_withoutFirst he hgone hf hout

end HeightBands

/-! ### Exact numbers -/

namespace LevelDescriptor
open Exact

variable {K : Type} [Field K] [LinearOrder K] [IsStrictOrderedRing K] [FloorRing K] {table : AirspaceTable K}
  {config : LevelConfig K} {v w : AirspaceVector table}

theorem value_floor_le_value_ceiling (hs : 0 < config.altitudeStep) (h : v.floor < v.ceiling) :
    Byte.value (encode config v).floor ≤ Byte.value (encode config v).ceiling :=
  Level.value_encodeAltitude_mono hs h.le

theorem distance_encode_mono (hs : 0 < config.distanceStep) (h : v.distance ≤ w.distance) :
    (encode config v).distance ≤ (encode config w).distance :=
  Level.encodeDistance_mono hs h

/-- Altitudes and distances are told in steps, half a step counting as a whole one, up to the largest number that a
    byte holds, and so they are told in their order. The floor of an airspace is then never told to be above its
    ceiling. Of bands with one vector for each airspace, such as those of a sweep, trimming takes airspaces away as a
    whole, and none with a smaller distance byte than one that stays without the point inside. -/
theorem encode_keepsOrder (table : AirspaceTable K) (ha : 0 < config.altitudeStep) (hd : 0 < config.distanceStep) :
    (∀ a : Altitude, Level.CountsSteps Byte.maxValue config.altitudeStep a.feet
      (Byte.value (Level.encodeAltitude a config.altitudeStep))) ∧
    (∀ a b : Altitude, a ≤ b → Byte.value (Level.encodeAltitude a config.altitudeStep) ≤
      Byte.value (Level.encodeAltitude b config.altitudeStep)) ∧
    (∀ d, Level.CountsSteps 255 config.distanceStep d (Level.encodeDistance d config.distanceStep).toNat) ∧
    (∀ d e, d ≤ e → Level.encodeDistance d config.distanceStep ≤ Level.encodeDistance e config.distanceStep) ∧
    (∀ v : AirspaceVector table, v.floor < v.ceiling →
      Byte.value (encode config v).floor ≤ Byte.value (encode config v).ceiling) ∧
    (∀ vs : List (AirspaceVector table), (resolve vs).OnePerAirspace ∧
      ((resolve vs).merged config).OnePerAirspace) ∧
    ∀ (b c : HeightBands table) (levels : Nat) (point : Point K), b.OnePerAirspace → b.trim levels point = .ok c →
      ∀ e ∈ b.toList, e ∉ c.toList → ∀ f ∈ c.toList, f.2.index ≠ e.2.index ∧
        (f.2.inside = false → (encode config f.2).distance ≤ (encode config e.2).distance) := by
  refine ⟨Level.countsSteps_encodeAltitude ha, ?_, Level.countsSteps_encodeDistance hd, ?_, ?_, ?_, ?_⟩
  · intro a b hab
    exact Level.value_encodeAltitude_mono ha hab
  · intro d e hde
    exact Level.encodeDistance_mono hd hde
  · intro v hlimits
    exact value_floor_le_value_ceiling ha hlimits
  · intro vs
    have hdef : AirspaceVector.Defined vs := fun v _ => isDefined v.distance
    exact ⟨onePerAirspace_of_subset hdef (List.Subset.refl _), onePerAirspace_of_subset hdef merged_subset_self⟩
  · intro b c levels point hone htrim e he hgone f hf
    have hb : b.Agreeing := hone.agreeing fun v _ => isDefined v.distance
    refine ⟨hb.index_ne_of_dropped htrim he hgone hf, ?_⟩
    intro hout
    exact distance_encode_mono hd (hb.distance_le_of_dropped htrim he hgone hf hout)

/-- Two airspaces beside a point at nearly one distance, the lower one from below the sea, and a farther one around
    the point between them. -/
def besideAndAround : AirspaceTable ℚ := .ofBands [(-300, 4000), (1000, 2000), (4000, 6000)]

def besideLow : AirspaceVector besideAndAround := .measured ⟨0, by decide⟩ 660 90 false

def aroundFar : AirspaceVector besideAndAround := .measured ⟨1, by decide⟩ 9000 0 true

def besideHigh : AirspaceVector besideAndAround := .measured ⟨2, by decide⟩ 650 180 false

/-- With two levels the lower one beside the point goes, with its bands below and above the one around the point. The
    one that stays has the same byte. -/
theorem encode_keepsOrder_besideAndAround : ∃ c, (resolve [besideLow, aroundFar, besideHigh]).OnePerAirspace ∧
    (resolve [besideLow, aroundFar, besideHigh]).trim 2 ⟨48, 9⟩ = .ok c ∧
    c.keys = [⟨1000, .sea⟩, ⟨4000, .sea⟩] ∧
    (encode .standard besideHigh).distance ≤ (encode .standard besideLow).distance ∧
    Byte.value (encode .standard besideLow).floor ≤ Byte.value (encode .standard besideLow).ceiling ∧
    Byte.value (Level.encodeAltitude ⟨125, .sea⟩ (LevelConfig.standard.altitudeStep : ℚ)) ≤
      Byte.value (Level.encodeAltitude ⟨125, .ground⟩ (LevelConfig.standard.altitudeStep : ℚ)) := by
  have ha : 0 < (LevelConfig.standard : LevelConfig ℚ).altitudeStep := by decide +kernel
  have hd : 0 < (LevelConfig.standard : LevelConfig ℚ).distanceStep := by decide +kernel
  have htrim : (resolve [besideLow, aroundFar, besideHigh]).trim 2 ⟨48, 9⟩ = .ok _ :=
    trim_eq_ok_iff.mpr ⟨rfl, by decide +kernel⟩
  obtain ⟨-, hvalue, -, -, hlimits, hone, hdropped⟩ := encode_keepsOrder besideAndAround ha hd
  have hvectors := (hone [besideLow, aroundFar, besideHigh]).1
  have hbyte := hdropped _ _ 2 ⟨48, 9⟩ hvectors htrim (⟨-300, .sea⟩, besideLow) (by decide +kernel) (by decide +kernel)
    (⟨4000, .sea⟩, besideHigh) (by decide +kernel)
  exact ⟨_, hvectors, htrim, by decide +kernel, hbyte.2 rfl, hlimits besideLow (by decide), hvalue _ _ (by decide)⟩

end LevelDescriptor

end AirspaceRaster
