import AirspaceRaster.Proofs.Altitude
import AirspaceRaster.Proofs.Level.Quantized

/-! Quantization keeps the order of exact numbers: what is farther away never has the smaller byte, and what is
    higher up never has the smaller value beside its flag. A value counts steps, a half of one going up, and
    counting is monotone whatever the step. -/

namespace AirspaceRaster

theorem Whole.le_upTo_iff {hi k : Nat} {n : Int} (h₀ : 0 < k) (hk : k ≤ hi) :
    k ≤ (of n).upTo hi ↔ (k : Int) ≤ n := by
  simp only [upTo, saturate]
  omega

namespace Level
open Exact

variable {K : Type} [Field K] [LinearOrder K] [FloorRing K] {d e step x y : K} {a b : Altitude} {hi m n : Nat}

/-- The number `n` of steps in `x`, as far as `hi` steps go. It gets to `k` half a step before `k` steps are full. -/
structure CountsSteps (hi : Nat) (step x : K) (n : Nat) : Prop where
  le : n ≤ hi
  reaches_iff : ∀ k : Nat, 0 < k → k ≤ hi → (k ≤ n ↔ ((k : K) - 1 / 2) * step ≤ x)

/-- What is reached by a quantity is reached by every larger one. -/
theorem CountsSteps.mono (hx : CountsSteps hi step x m) (hy : CountsSteps hi step y n) (h : x ≤ y) : m ≤ n := by
  rcases Nat.eq_zero_or_pos m with rfl | hpos
  · exact Nat.zero_le n
  · have hreach : ((m : K) - 1 / 2) * step ≤ x := (hx.reaches_iff m hpos hx.le).mp le_rfl
    exact (hy.reaches_iff m hpos hx.le).mpr (hreach.trans h)

variable [IsStrictOrderedRing K]

theorem countsSteps_upTo (hs : 0 < step) (hi : Nat) (x : K) :
    CountsSteps hi step x ((Whole.of (steps x step)).upTo hi) where
  le := Whole.upTo_le ..
  reaches_iff k h₀ hk := by
    rw [Whole.le_upTo_iff h₀ hk, steps, le_nearest_iff (by omega), Int.cast_natCast, le_div_iff₀ hs]

theorem countsSteps_encodeAltitude (hs : 0 < step) (a : Altitude) :
    CountsSteps Byte.maxValue step (a.feet : K) (Byte.value (encodeAltitude a step)) := by
  rw [value_encodeAltitude]
  exact countsSteps_upTo hs Byte.maxValue _

theorem countsSteps_encodeDistance (hs : 0 < step) (d : K) : CountsSteps 255 step d (encodeDistance d step).toNat := by
  rw [toNat_encodeDistance]
  exact countsSteps_upTo hs 255 d

/-- The references make no difference: the lower one of two altitudes never has more feet. -/
theorem value_encodeAltitude_mono (hs : 0 < step) (h : a ≤ b) :
    Byte.value (encodeAltitude a step) ≤ Byte.value (encodeAltitude b step) := by
  have hfeet : (a.feet : K) ≤ b.feet := Int.cast_le.mpr (Altitude.feet_le_of_le h)
  exact (countsSteps_encodeAltitude hs a).mono (countsSteps_encodeAltitude hs b) hfeet

theorem encodeDistance_mono (hs : 0 < step) (h : d ≤ e) : encodeDistance d step ≤ encodeDistance e step := by
  rw [UInt8.le_iff_toNat_le]
  exact (countsSteps_encodeDistance hs d).mono (countsSteps_encodeDistance hs e) h

end Level

end AirspaceRaster
