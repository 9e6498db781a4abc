import AirspaceRaster.Decimal.Literal
import AirspaceRaster.Proofs.Number.Scientific

/-! The number that a literal is read as: the nearest double. What is cut off without arithmetic is beyond the largest
    double or nearer to zero than to the least one. -/

namespace AirspaceRaster.Decimal
open Binary64
open Float.Model.UnpackedFloat (Sign)

variable {digits : Nat} {exponent : Int}

def signOf (negative : Bool) : Sign :=
  if negative then .negative else .positive

/-- A double is what a literal stands for: the nearest one to its number, with its sign. -/
def Literal.StandsFor : Literal → Float → Prop
  | .undefined, x => decode x = .notANumber
  | .infinite negative, x => decode x = .infinity (signOf negative)
  | .finite negative digits exponent, x => IsNearest (signOf negative) (digits * 10 ^ exponent) (decode x)

theorem lt_tenTo_digitCount (n : Nat) : n < 10 ^ digitCount n :=
  (Nat.length_toDigits_le_iff (by norm_num) Nat.length_toDigits_pos).mp le_rfl

theorem tenTo_digitCount_le (hd : 0 < digits) : 10 ^ (digitCount digits - 1) ≤ digits := by
  rcases Nat.eq_zero_or_pos (digitCount digits - 1) with hone | hmore
  · rw [hone]
    exact hd
  · by_contra hlt
    have hle : digitCount digits ≤ digitCount digits - 1 :=
      (Nat.length_toDigits_le_iff (by norm_num) hmore).mpr (not_le.mp hlt)
    omega

theorem isNearest_magnitude (digits : Nat) (exponent : Int) : IsNearest .positive (digits * 10 ^ exponent)
    (decode (if digits = 0 ∨ digitCount digits + exponent < -400 then 0.0
      else if 400 < digitCount digits + exponent then 1.0 / 0.0
      else Float.ofScientific digits (exponent < 0) exponent.natAbs)) := by
  have hlt : (digits : ℚ) < 10 ^ (digitCount digits : Int) := by exact_mod_cast lt_tenTo_digitCount digits
  split_ifs with hzero hlarge
  · have hdecode : decode 0.0 = .zero .positive := rfl
    rw [hdecode]
    refine .zero (isClosest_zero (by positivity) ?_)
    rcases hzero with rfl | hsmall
    · rw [Nat.cast_zero, zero_mul]
      positivity
    · calc (digits : ℚ) * 10 ^ exponent ≤ 10 ^ (digitCount digits : Int) * 10 ^ exponent :=
            mul_le_mul_of_nonneg_right hlt.le (by positivity)
        _ = 10 ^ (digitCount digits + exponent) := (zpow_add₀ (by norm_num) _ _).symm
        _ ≤ 10 ^ (-(400 : Nat) : Int) := zpow_le_zpow_right₀ (by norm_num) hsmall.le
        _ ≤ 2 ^ (-3 * (400 : Nat) : Int) := tenTo_le 400
        _ ≤ 2 ^ (-1075 : Int) := zpow_le_zpow_right₀ one_le_two (by norm_num)
  · have hdecode : decode (1.0 / 0.0) = .infinity .positive := rfl
    rw [hdecode]
    refine .infinite (overflow_le.trans ?_)
    have hle := tenTo_digitCount_le (Nat.pos_of_ne_zero fun h => hzero (.inl h))
    have hle' : (10 : ℚ) ^ ((digitCount digits - 1 : Nat) : Int) ≤ digits := by exact_mod_cast hle
    calc (10 : ℚ) ^ (400 : Int) ≤ 10 ^ ((digitCount digits - 1 : Nat) + exponent) :=
          zpow_le_zpow_right₀ (by norm_num) (by omega)
      _ = 10 ^ ((digitCount digits - 1 : Nat) : Int) * 10 ^ exponent := zpow_add₀ (by norm_num) _ _
      _ ≤ digits * 10 ^ exponent := mul_le_mul_of_nonneg_right hle' (by positivity)
  · have hexponent : (if decide (exponent < 0) = true then -(exponent.natAbs : Int) else exponent.natAbs) =
        exponent := by
      simp only [decide_eq_true_eq]
      split_ifs <;> omega
    have hnearest := isNearest_ofScientific (Nat.pos_of_ne_zero fun h => hzero (.inl h)) (exponent < 0) exponent.natAbs
    rwa [hexponent] at hnearest

theorem Literal.standsFor_value (l : Literal) : l.StandsFor l.value := by
  cases l with
  | undefined => exact (rfl : decode (0.0 / 0.0) = .notANumber)
  | infinite negative =>
    cases negative with
    | false => exact (rfl : decode (1.0 / 0.0) = .infinity .positive)
    | true => exact (rfl : decode (-1.0 / 0.0) = .infinity .negative)
  | finite negative digits exponent =>
    have hmagnitude := isNearest_magnitude digits exponent
    rw [Literal.StandsFor, Literal.value]
    cases negative with
    | false => exact hmagnitude
    | true => exact hmagnitude.neg

/-- There is one double that a literal stands for, and it is the one that is read. -/
theorem Literal.standsFor_iff {l : Literal} {x : Float} : l.StandsFor x ↔ x = l.value := by
  constructor
  · intro h
    have hvalue := l.standsFor_value
    apply decode_injective
    cases l with
    | undefined => exact Eq.trans h (Eq.symm hvalue)
    | infinite negative => exact Eq.trans h (Eq.symm hvalue)
    | finite negative digits exponent => exact IsNearest.unique h hvalue
  · rintro rfl
    exact l.standsFor_value

end AirspaceRaster.Decimal
