import Mathlib.Order.Lattice
import Mathlib.Tactic.ByContra
import AirspaceRaster.Number.Binary64
import AirspaceRaster.Proofs.Band.Choice
import AirspaceRaster.Proofs.Band.Thinning
import AirspaceRaster.Proofs.Level.Byte

/-! Merging across a boundary. In a bearing byte the flag for inside stands above the value, so the largest value
    outside is next to the smallest one inside, and a tolerance that bridges the gap between them merges a band
    inside with one outside. How wide the gap is depends on the number of steps in a turn. -/

namespace AirspaceRaster

/-! ### Values of a bearing -/

namespace Level

/-- The largest value that bearings have: less than the steps of a turn, and no more than a byte holds. -/
def bearingReach {R : Type} [Scalar R] (step : R) : Nat :=
  match bearingSlots step with
  | .of slots => min (slots.natAbs - 1) Byte.maxValue
  | .undefined => 0
  | _ => Byte.maxValue

theorem bearingValue_le_reach {R : Type} [Scalar R] (bearing step : R) :
    bearingValue bearing step ≤ bearingReach step := by
  have hmax : bearingValue bearing step ≤ Byte.maxValue := Whole.upTo_le ..
  rw [bearingReach]
  split
  · rename_i slots hslots
    refine le_min ?_ hmax
    rw [bearingValue, hslots]
    cases Scalar.nearest (bearing / step) with
    | of q =>
      by_cases hzero : slots = 0
      · simp [Whole.modulo, hzero, Whole.upTo, Whole.saturate]
      · have hlt : q % slots < slots.natAbs := Int.emod_lt q hzero
        simp only [Whole.modulo, if_neg hzero, Whole.upTo, Whole.saturate]
        omega
    | above => exact Nat.zero_le _
    | below => exact Nat.zero_le _
    | undefined => exact Nat.zero_le _
  · rename_i hslots
    rw [bearingValue, hslots]
    cases Scalar.nearest (bearing / step) <;> exact Nat.zero_le _
  · exact hmax

end Level

/-! ### Bands -/

namespace HeightBands
open Level

variable {R : Type} [Scalar R] {config : LevelConfig R}

/-- Whatever bands are merged, one that is dropped agrees with the nearest kept one below it on whether the point
    is inside. -/
def KeepsFlag (config : LevelConfig R) : Prop :=
  ∀ {table : AirspaceTable R} (b : HeightBands table), ∀ e ∈ b.toList, e ∉ (b.dropAlike config).toList →
    ∃ f, (b.dropAlike config).below? e.1 = some f ∧ f.2.inside = e.2.inside

/-- No bearing outside is within the tolerance of one inside. -/
def KeepsApart (config : LevelConfig R) : Prop :=
  ∀ x y : R, bearingValue x config.bearingStep + config.bearingTolerance.toNat <
    128 + bearingValue y config.bearingStep

section Alike
variable {table : AirspaceTable R} {e f : Altitude × AirspaceVector table}

theorem alike_of_bridged (hd : f.2.distance = e.2.distance) (hf : f.2.inside = false) (he : e.2.inside = true)
    (h : 128 + bearingValue e.2.bearing config.bearingStep ≤
      bearingValue f.2.bearing config.bearingStep + config.bearingTolerance.toNat) : alike config f e = true := by
  have hmax : bearingValue f.2.bearing config.bearingStep ≤ Byte.maxValue := Whole.upTo_le ..
  refine LevelDescriptor.looksLike_iff.mpr ⟨?_, ?_⟩
  · rw [LevelDescriptor.encode, LevelDescriptor.encode, hd]
  · rw [LevelDescriptor.encode, LevelDescriptor.encode, toNat_encodeBearing, toNat_encodeBearing, hf, he]
    simp only [Byte.maxValue] at hmax
    simp only [Bool.false_eq_true, if_true, if_false]
    omega

end Alike

/-- A band outside and one inside above it, at one distance. -/
def outsideBelowInside (distance x y : R) : HeightBands (.ofBands [(0, 1000), (1000, 2000)] : AirspaceTable R) where
  toList :=
    [(⟨0, .sea⟩, ⟨⟨0, by simp [AirspaceTable.ofBands]⟩, distance, x, false⟩),
      (⟨1000, .sea⟩, ⟨⟨1, by simp [AirspaceTable.ofBands]⟩, distance, y, true⟩)]
  ascending := by simp [Altitude.lt_def]

theorem not_keepsFlag_of_bridged {x y : R} (h : 128 + bearingValue y config.bearingStep ≤
    bearingValue x config.bearingStep + config.bearingTolerance.toNat) : ¬KeepsFlag config := by
  intro hkeeps
  have hlist : ∃ e f, (outsideBelowInside (Scalar.ofInt 0) x y).toList = [f, e] ∧
      ((outsideBelowInside (Scalar.ofInt 0) x y).dropAlike config).toList = [f] ∧
      f.2.inside = false ∧ e.2.inside = true := by
    refine ⟨_, _, rfl, ?_, rfl, rfl⟩
    rw [toList_dropAlike, outsideBelowInside, thin, thinAfter, if_pos, thinAfter]
    exact alike_of_bridged rfl rfl rfl h
  obtain ⟨e, f, hall, hkept, hf, he⟩ := hlist
  have hne : e ≠ f := by
    rintro rfl
    rw [hf] at he
    cases he
  have hmem : e ∈ (outsideBelowInside (Scalar.ofInt 0) x y).toList := by
    rw [hall]
    exact List.mem_cons_of_mem _ (List.mem_singleton.mpr rfl)
  have hdropped : e ∉ ((outsideBelowInside (Scalar.ofInt 0) x y).dropAlike config).toList := by
    rw [hkept, List.mem_singleton]
    exact hne
  obtain ⟨g, hg, hinside⟩ := hkeeps _ e hmem hdropped
  have hgkept := (below?_eq_some_iff.mp hg).1
  rw [hkept, List.mem_singleton] at hgkept
  rw [hgkept, hf, he] at hinside
  cases hinside

theorem keepsFlag_iff_keepsApart (config : LevelConfig R) : KeepsFlag config ↔ KeepsApart config := by
  constructor
  · intro hkeeps x y
    by_contra! hle
    exact not_keepsFlag_of_bridged hle hkeeps
  · intro hapart table b e he hne
    obtain ⟨f, hf, halike⟩ := (mem_or_below_dropAlike config he).resolve_left hne
    exact ⟨f, hf, LevelDescriptor.inside_eq_of_apart hapart halike⟩

theorem keepsApart_of_reach (h : bearingReach config.bearingStep + config.bearingTolerance.toNat < 128) :
    KeepsApart config := by
  intro x y
  have hx := bearingValue_le_reach x config.bearingStep
  omega

/-- The flag prevents merging exactly if no bearing outside comes within the tolerance of one inside. It always does
    if the largest value of a bearing lies farther below the flag than the tolerance. -/
theorem keepsFlag_iff (config : LevelConfig R) :
    (KeepsFlag config ↔ ∀ x y : R, bearingValue x config.bearingStep + config.bearingTolerance.toNat <
      128 + bearingValue y config.bearingStep) ∧
    (bearingReach config.bearingStep + config.bearingTolerance.toNat < 128 → KeepsFlag config) := by
  refine ⟨keepsFlag_iff_keepsApart config, ?_⟩
  intro h
  exact (keepsFlag_iff_keepsApart config).mpr (keepsApart_of_reach h)

theorem bearingReach_standard : bearingReach (LevelConfig.standard : LevelConfig Float).bearingStep = 119 := by
  decide +kernel

theorem keepsFlag_iff_standard : bearingReach (LevelConfig.standard : LevelConfig Float).bearingStep = 119 ∧
    KeepsFlag { (LevelConfig.standard : LevelConfig Float) with bearingTolerance := 8 } := by
  refine ⟨bearingReach_standard, (keepsFlag_iff _).2 ?_⟩
  show bearingReach (LevelConfig.standard : LevelConfig Float).bearingStep + 8 < 128
  rw [bearingReach_standard]
  decide

/-- A band outside just west of north, and one inside just north of it. -/
def besideNorth : HeightBands (.ofBands [(0, 1000), (1000, 2000)] : AirspaceTable Float) :=
  outsideBelowInside 640 357 0

/-- A tolerance by which the last bearing outside is close to the first one inside. -/
def nineSteps : LevelConfig Float :=
  { LevelConfig.standard with bearingTolerance := 9 }

theorem flag_lost_besideNorth : 0 < nineSteps.bearingStep ∧ nineSteps.bearingTolerance < 128 ∧ ¬KeepsFlag nineSteps ∧
    ∃ e ∈ besideNorth.toList, e.2.inside = true ∧ e ∉ (besideNorth.dropAlike nineSteps).toList ∧
      ∃ f, (besideNorth.dropAlike nineSteps).below? e.1 = some f ∧ f.2.inside = false := by
  have hbridged : 128 + bearingValue (0 : Float) nineSteps.bearingStep ≤
      bearingValue 357 nineSteps.bearingStep + nineSteps.bearingTolerance.toNat := by decide +kernel
  refine ⟨by decide +kernel, by decide, not_keepsFlag_of_bridged hbridged, ?_⟩
  refine ⟨(⟨1000, .sea⟩, ⟨⟨1, by decide⟩, 640, 0, true⟩), by decide +kernel, rfl, by decide +kernel, ?_⟩
  exact ⟨(⟨0, .sea⟩, ⟨⟨0, by decide⟩, 640, 357, false⟩), by decide +kernel, rfl⟩

end HeightBands

end AirspaceRaster
