import Mathlib.Tactic.FieldSimp
import Mathlib.Tactic.Ring
import AirspaceRaster.Proofs.Level.Byte
import AirspaceRaster.Proofs.Number.Exact

/-! What is left of a quantity when its byte is read back, over exact numbers. A byte counts the nearest whole
    steps, so half a step may be lost; what lies beyond the range of the byte is brought to its nearer end.
    Bearings go round, and if a turn is no whole number of steps, the last step of it is a shorter or a longer
    one. -/

namespace AirspaceRaster.Level
open Exact

variable {K : Type} [Field K] [LinearOrder K] [FloorRing K] {hi : Nat} {step x y bearing : K} {a : Altitude}
  {slots : Int}

/-- The whole steps that are nearest to a quantity. -/
def steps (x step : K) : Int :=
  Exact.nearest (x / step)

theorem altitudeValue_eq (a : Altitude) (step : K) :
    altitudeValue a step = (Whole.of (steps (a.feet : K) step)).upTo Byte.maxValue := rfl

theorem altitudeValue_eq_zero_iff_steps : altitudeValue a step = 0 ↔ steps (a.feet : K) step ≤ 0 := by
  rw [altitudeValue_eq]
  simp only [Whole.upTo, Whole.saturate, Byte.maxValue]
  omega

theorem altitudeValue_eq_maxValue_iff :
    altitudeValue a step = Byte.maxValue ↔ Byte.maxValue ≤ steps (a.feet : K) step := by
  rw [altitudeValue_eq]
  simp only [Whole.upTo, Whole.saturate, Byte.maxValue]
  omega

theorem steps_turn (hslots : bearingSlots step = .of slots) : steps 360 step = slots := by
  have h : Whole.of (steps ((360 : Int) : K) step) = .of slots := hslots
  rw [Int.cast_ofNat] at h
  exact Whole.of.inj h

theorem bearingValue_eq (hslots : bearingSlots step = .of slots) (hpos : 1 ≤ slots) :
    bearingValue bearing step = (Whole.of (steps bearing step % slots)).upTo Byte.maxValue := by
  show (Whole.modulo (.of (steps bearing step)) (bearingSlots step)).upTo Byte.maxValue = _
  rw [hslots, Whole.modulo, if_neg (by omega)]

/-- Within a turn the value of a bearing is the number of its steps. -/
theorem bearingValue_of_lt (hslots : bearingSlots step = .of slots) (hroom : slots ≤ 128)
    (h₀ : 0 ≤ steps bearing step) (h : steps bearing step < slots) :
    (bearingValue bearing step : Int) = steps bearing step := by
  rw [bearingValue_eq hslots (by omega), Int.emod_eq_of_lt h₀ h]
  simp only [Whole.upTo, Whole.saturate, Byte.maxValue]
  omega

/-- A bearing that is rounded up to a full turn is north. -/
theorem bearingValue_of_eq (hslots : bearingSlots step = .of slots) (hpos : 1 ≤ slots)
    (h : steps bearing step = slots) : bearingValue bearing step = 0 := by
  rw [bearingValue_eq hslots hpos, h, Int.emod_self]
  rfl

variable [IsStrictOrderedRing K]

theorem abs_steps_mul_sub_le (hs : 0 < step) (x : K) : |steps x step * step - x| ≤ step / 2 := by
  have hx : x / step * step = x := div_mul_cancel₀ x hs.ne'
  calc |steps x step * step - x| = |((steps x step : K) - x / step) * step| := by rw [sub_mul, hx]
    _ = |(steps x step : K) - x / step| * step := by rw [abs_mul, abs_of_pos hs]
    _ ≤ 1 / 2 * step := mul_le_mul_of_nonneg_right (abs_nearest_sub_le _) hs.le
    _ = step / 2 := by ring

theorem steps_mul (hs : 0 < step) (n : Int) : steps (n * step) step = n := by
  rw [steps, mul_div_cancel_right₀ _ hs.ne', nearest_intCast]

theorem steps_le_of_le (hs : 0 < step) {n : Int} (h : x ≤ n * step) : steps x step ≤ n :=
  nearest_le_of_le ((div_le_iff₀ hs).mpr h)

theorem le_steps_of_le (hs : 0 < step) {n : Int} (h : n * step ≤ x) : n ≤ steps x step :=
  le_nearest_of_le ((le_div_iff₀ hs).mpr h)

/-! ### Ranges -/

/-- The quantity `y` is what up to `hi` steps can say of `x`: it is at most half a step away, and beyond the range
    of the steps it is the nearer end of that. -/
structure Recovered (hi : Nat) (step x y : K) : Prop where
  within : 0 ≤ x → x ≤ hi * step → |y - x| ≤ step / 2
  below : x < 0 → y = 0
  above : hi * step < x → y = hi * step

theorem recovered_upTo (hs : 0 < step) (hi : Nat) (x : K) :
    Recovered hi step x ((Whole.of (steps x step)).upTo hi * step) := by
  have hvalue : ((Whole.of (steps x step)).upTo hi : Int) = max 0 (min (hi : Int) (steps x step)) := by
    simp only [Whole.upTo, Whole.saturate]
    omega
  have hcast : (((Whole.of (steps x step)).upTo hi : Nat) : K) = (max 0 (min (hi : Int) (steps x step)) : Int) := by
    rw [← hvalue, Int.cast_natCast]
  rw [hcast]
  refine ⟨fun h₀ hx => ?_, fun hx => ?_, fun hx => ?_⟩
  · have hlow : 0 ≤ steps x step := le_steps_of_le hs (by simpa using h₀)
    have hhigh : steps x step ≤ hi := steps_le_of_le hs (by simpa using hx)
    rw [min_eq_right hhigh, max_eq_right hlow]
    exact abs_steps_mul_sub_le hs x
  · have hlow : steps x step ≤ 0 := steps_le_of_le hs (by simpa using hx.le)
    rw [max_eq_left (min_le_of_right_le hlow), Int.cast_zero, zero_mul]
  · have hhigh : (hi : Int) ≤ steps x step := le_steps_of_le hs (by simpa using hx.le)
    rw [min_eq_left hhigh, max_eq_right (Int.natCast_nonneg hi), Int.cast_natCast]

/-! ### Altitudes -/

/-- The feet `y` are what a byte can say of the feet `x`: the nearest steps, rounded to a whole foot. -/
structure RecoveredFeet (step : K) (x y : Int) : Prop where
  within : 0 ≤ x → (x : K) ≤ Byte.maxValue * step → |(y : K) - x| ≤ step / 2 + 1 / 2
  below : x < 0 → y = 0
  above : Byte.maxValue * step < x → y = nearest (Byte.maxValue * step)

/-- Rounding to a foot adds half of one, and limiting the feet only brings them nearer. -/
theorem recoveredFeet_saturate {x : Int} (h : Recovered Byte.maxValue step x y) (hy : 0 ≤ y)
    (hx : x ≤ Altitude.maxFeet) :
    RecoveredFeet step x ((Whole.of (nearest y)).saturate Altitude.minFeet Altitude.maxFeet) := by
  have hnonneg : 0 ≤ nearest y := le_nearest_of_le (by simpa using hy)
  have hfeet : (Whole.of (nearest y)).saturate Altitude.minFeet Altitude.maxFeet =
      min Altitude.maxFeet (nearest y) := by
    simp only [Whole.saturate, Altitude.minFeet, Altitude.maxFeet]
    omega
  rw [hfeet]
  refine ⟨fun h₀ hmax => ?_, fun hneg => ?_, fun habove => ?_⟩
  · have hclose : |(nearest y : K) - x| ≤ step / 2 + 1 / 2 :=
      calc |(nearest y : K) - x| ≤ |(nearest y : K) - y| + |y - x| := abs_sub_le _ y _
        _ ≤ 1 / 2 + step / 2 := add_le_add (abs_nearest_sub_le y) (h.within (by exact_mod_cast h₀) hmax)
        _ = step / 2 + 1 / 2 := add_comm _ _
    rcases le_total (nearest y) Altitude.maxFeet with hle | hle
    · rw [min_eq_right hle]
      exact hclose
    · -- The feet are limited, and the altitude is below the limit.
      rw [min_eq_left hle]
      have h₁ : (x : K) ≤ Altitude.maxFeet := by exact_mod_cast hx
      have h₂ : (Altitude.maxFeet : K) ≤ nearest y := by exact_mod_cast hle
      rw [abs_of_nonneg (by linarith)] at hclose ⊢
      linarith
  · have hzero : nearest y = 0 := by
      rw [h.below (by exact_mod_cast hneg)]
      simpa using nearest_intCast (K := K) 0
    rw [hzero]
    rfl
  · have hend := h.above habove
    rw [hend] at hnonneg ⊢
    exact min_eq_right ((nearest_le_of_le habove.le).trans hx)

theorem recoveredFeet_decodeAltitude (hs : 0 < step) (ha : a.feet ≤ Altitude.maxFeet) :
    RecoveredFeet step a.feet (decodeAltitude (encodeAltitude a step) step).feet := by
  have h := recoveredFeet_saturate (recovered_upTo hs Byte.maxValue (a.feet : K))
    (mul_nonneg (Nat.cast_nonneg _) hs.le) ha
  rw [← altitudeValue_eq, ← value_encodeAltitude, ← Int.cast_natCast] at h
  exact h

/-- Feet that were read from a byte go back to its value: a step is at least a foot, so rounding to a foot does
    not reach the next one. -/
theorem altitudeValue_decodeAltitude (b : UInt8) (hs : 1 ≤ step) (hmax : Byte.maxValue * step ≤ Altitude.maxFeet) :
    altitudeValue (decodeAltitude b step) step = Byte.value b := by
  have hpos : 0 < step := one_pos.trans_le hs
  have hb : (Byte.value b : K) ≤ Byte.maxValue := by exact_mod_cast Byte.value_le b
  have hlow : 0 ≤ nearest (Byte.value b * step) := le_nearest_of_le (by
    rw [Int.cast_zero]
    exact mul_nonneg (Nat.cast_nonneg _) hpos.le)
  have hhigh : nearest (Byte.value b * step) ≤ Altitude.maxFeet :=
    nearest_le_of_le ((mul_le_mul_of_nonneg_right hb hpos.le).trans hmax)
  have hfeet : (decodeAltitude b step).feet = nearest (Byte.value b * step) := by
    show (Whole.of (nearest (Scalar.ofInt (Byte.value b) * step))).saturate _ _ = _
    rw [ofInt_natCast, Whole.saturate_of _ hhigh]
    exact le_trans (by decide) hlow
  have hsteps : steps ((nearest (Byte.value b * step) : Int) : K) step = (Byte.value b : Int) := by
    rcases hs.eq_or_lt with rfl | hlt
    · rw [mul_one, ← Int.cast_natCast, nearest_intCast]
      simpa using steps_mul hpos (Byte.value b : Int)
    · refine nearest_eq_of_abs_lt ?_
      have hclose := abs_nearest_sub_le (Byte.value b * step)
      have hquot : (nearest (Byte.value b * step) : K) / step - (Byte.value b : Int) =
          ((nearest (Byte.value b * step) : K) - Byte.value b * step) / step := by
        rw [Int.cast_natCast]
        field_simp
      rw [hquot, abs_div, abs_of_pos hpos, div_lt_iff₀ hpos]
      linarith
  rw [altitudeValue_eq, hfeet, hsteps]
  have := Byte.value_le b
  simp only [Whole.upTo, Whole.saturate]
  omega

theorem encodeAltitude_decodeAltitude (b : UInt8) (hs : 1 ≤ step) (hmax : Byte.maxValue * step ≤ Altitude.maxFeet) :
    encodeAltitude (decodeAltitude b step) step = b := by
  rw [encodeAltitude, altitudeValue_decodeAltitude b hs hmax, isAboveGround_decodeAltitude, Byte.pack_value_flag]

/-! ### Distances -/

theorem distanceValue_mul (hs : 0 < step) {n : Nat} (hn : n ≤ 255) : distanceValue (n * step) step = n := by
  have hsteps := steps_mul hs n
  rw [Int.cast_natCast] at hsteps
  show (Whole.of (steps (n * step) step)).upTo 255 = n
  rw [hsteps]
  simp only [Whole.upTo, Whole.saturate]
  omega

/-! ### Bearings -/

/-- The angle between two directions in degrees, the shorter way round. -/
def angleBetween (x y : K) : K :=
  |x - y - 360 * round ((x - y) / 360)|

/-- No number of whole turns between two directions leaves less than their angle. -/
theorem angleBetween_le {e : K} (k : Int) (h : |x - y - 360 * k| ≤ e) : angleBetween x y ≤ e := by
  have hturn : ∀ n : Int, |x - y - 360 * n| = 360 * |(x - y) / 360 - n| := fun n => by
    have hfactor : x - y - 360 * n = 360 * ((x - y) / 360 - n) := by ring
    rw [hfactor, abs_mul, abs_of_pos (by norm_num)]
  calc angleBetween x y = 360 * |(x - y) / 360 - round ((x - y) / 360)| := hturn _
    _ ≤ 360 * |(x - y) / 360 - k| := mul_le_mul_of_nonneg_left (round_le _ k) (by norm_num)
    _ = |x - y - 360 * k| := (hturn k).symm
    _ ≤ e := h

/-- A bearing is read back with an error of no more than one step, and of no more than half a step if a turn is
    a whole number of steps. -/
theorem angleBetween_bearingValue (hs : 0 < step) (hslots : bearingSlots step = .of slots) (hpos : 1 ≤ slots)
    (hroom : slots ≤ 128) (h₀ : 0 ≤ bearing) (hturn : bearing < 360) :
    angleBetween (bearingValue bearing step * step) bearing ≤ step ∧
      ((∃ n : Int, n * step = 360) → angleBetween (bearingValue bearing step * step) bearing ≤ step / 2) := by
  have hclose := abs_steps_mul_sub_le hs bearing
  have hlow : 0 ≤ steps bearing step := le_steps_of_le hs (by simpa using h₀)
  have hhigh : steps bearing step ≤ slots := by
    rw [← steps_turn hslots]
    exact nearest_mono (div_le_div_of_nonneg_right hturn.le hs.le)
  rcases hhigh.lt_or_eq with hlt | heq
  · -- The nearest steps are told, and no turn lies between.
    have hvalue := bearingValue_of_lt hslots hroom hlow hlt
    have hhalf : angleBetween (bearingValue bearing step * step) bearing ≤ step / 2 := by
      refine angleBetween_le 0 ?_
      rw [← Int.cast_natCast, hvalue]
      simpa using hclose
    exact ⟨hhalf.trans (half_le_self hs.le), fun _ => hhalf⟩
  · -- North is told, one turn further on. The steps of the turn may miss it by half a step as well.
    have hgap : ∀ e, 360 - bearing ≤ e → angleBetween (bearingValue bearing step * step) bearing ≤ e := by
      intro e he
      refine angleBetween_le (-1) ?_
      rw [bearingValue_of_eq hslots hpos heq, Nat.cast_zero, abs_of_nonneg (by push_cast; linarith)]
      push_cast
      linarith
    have hmiss := abs_steps_mul_sub_le hs (360 : K)
    rw [steps_turn hslots] at hmiss
    rw [heq] at hclose
    refine ⟨hgap _ ?_, ?_⟩
    · linarith [(abs_le.mp hmiss).1, (abs_le.mp hclose).2]
    · rintro ⟨n, hn⟩
      have hslots' : slots = n := by rw [← steps_turn hslots, ← hn, steps_mul hs]
      rw [hslots', hn] at hclose
      exact hgap _ (abs_le.mp hclose).2

theorem bearingStep_pos (hslots : bearingSlots step = .of slots) (hpos : 1 ≤ slots) : 0 < step := by
  by_contra hneg
  have hle : steps 360 step ≤ 0 :=
    nearest_le_of_le (by simpa using div_nonpos_of_nonneg_of_nonpos (by norm_num) (not_lt.mp hneg))
  rw [steps_turn hslots] at hle
  omega

/-- The bearing of a value lies within one turn. -/
theorem bearing_lt_turn (hslots : bearingSlots step = .of slots) {n : Nat} (hn : n < slots) :
    (n : K) * step < 360 := by
  have hs := bearingStep_pos hslots (by omega)
  have hmiss := (abs_le.mp (abs_steps_mul_sub_le hs 360)).2
  have hle : ((n + 1 : Int) : K) * step ≤ slots * step :=
    mul_le_mul_of_nonneg_right (Int.cast_le.mpr (by omega)) hs.le
  rw [steps_turn hslots] at hmiss
  push_cast at hle
  linarith

theorem bearingValue_mul (hslots : bearingSlots step = .of slots) (hroom : slots ≤ 128) {n : Nat} (hn : n < slots) :
    bearingValue (n * step) step = n := by
  have hs := bearingStep_pos hslots (by omega)
  have hsteps := steps_mul hs n
  rw [Int.cast_natCast] at hsteps
  have hvalue := bearingValue_of_lt hslots hroom (by omega) (hsteps.trans_lt hn)
  omega

end AirspaceRaster.Level
