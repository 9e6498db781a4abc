import Mathlib
import AirspaceRaster.Proofs.Number.Value

/-! Rounding to doubles. The bits behind a mantissa tell on which side of the middle between two whole numbers a number
    lies, and shifting keeps what they tell. So what is rounded at the end is the number itself, to the nearest
    mantissa and to the even one of two, and no double is nearer to the number than the one with this mantissa. -/

namespace AirspaceRaster.Binary64
open Float.Model Float.Model.UnpackedFloat

variable {m n k : Nat} {e f : Int} {q x : ℚ} {em : ExtendedMantissa} {acc : Accuracy} {s : Sign} {u : UnpackedFloat}

/-! ### Whole numbers -/

/-- A number rounded to a whole one, in the middle between two to the even one. -/
structure IsRounded (x : ℚ) (n : Nat) : Prop where
  near : |(n : ℚ) - x| ≤ 1 / 2
  even : |(n : ℚ) - x| = 1 / 2 → Even n

theorem IsRounded.le (h : IsRounded x n) (k : Nat) : |(n : ℚ) - x| ≤ |(k : ℚ) - x| := by
  rcases eq_or_ne k n with rfl | hne
  · exact le_rfl
  · have hapart : (1 : ℚ) ≤ |(k : ℚ) - n| := by
      have hint : (1 : Int) ≤ |(k : Int) - n| := Int.one_le_abs (by omega)
      exact_mod_cast hint
    have htriangle := abs_sub_le (k : ℚ) x n
    have hnear := h.near
    rw [abs_sub_comm] at hnear
    rw [abs_sub_comm (n : ℚ) x]
    linarith

theorem IsRounded.even_of_eq (h : IsRounded x n) (hne : k ≠ n) (heq : |(k : ℚ) - x| = |(n : ℚ) - x|) : Even n := by
  have hapart : (1 : ℚ) ≤ |(k : ℚ) - n| := by
    have hint : (1 : Int) ≤ |(k : Int) - n| := Int.one_le_abs (by omega)
    exact_mod_cast hint
  have htriangle := abs_sub_le (k : ℚ) x n
  rw [abs_sub_comm x (n : ℚ)] at htriangle
  exact h.even (le_antisymm h.near (by linarith))

/-! ### Accuracy -/

/-- A number lies as far above a whole one as the accuracy tells. -/
def Stands (m : Nat) (x : ℚ) : Accuracy → Prop
  | .exact => x = m
  | .inexact .lt => m < x ∧ x < m + 1 / 2
  | .inexact .eq => x = m + 1 / 2
  | .inexact .gt => m + 1 / 2 < x ∧ x < m + 1

theorem Stands.bounds (h : Stands m x acc) : m ≤ x ∧ x < m + 1 := by
  rcases acc with _ | (_ | _ | _) <;> rw [Stands] at h <;> constructor <;> linarith

theorem Stands.isRounded (h : Stands m x acc) : IsRounded x (acc.roundToNearestEven m) := by
  rcases acc with _ | (_ | _ | _) <;> rw [Stands] at h <;> rw [Accuracy.roundToNearestEven]
  case exact =>
    rw [h]
    constructor <;> norm_num
  case inexact.lt =>
    have habs : |(m : ℚ) - x| = x - m := by rw [abs_sub_comm, abs_of_pos (by linarith)]
    constructor <;> rw [habs]
    · linarith
    · intro htie
      linarith
  case inexact.eq =>
    rw [h]
    rcases Nat.mod_two_eq_zero_or_one m with hmod | hmod <;> rw [hmod]
    · exact ⟨by norm_num [abs_le], fun _ => Nat.even_iff.mpr hmod⟩
    · exact ⟨by norm_num [abs_le], fun _ => Nat.even_iff.mpr (by omega)⟩
  case inexact.gt =>
    have habs : |((m + 1 : Nat) : ℚ) - x| = m + 1 - x := by
      push_cast
      exact abs_of_pos (by linarith)
    constructor <;> rw [habs]
    · linarith
    · intro htie
      linarith

theorem mantissa_shiftRight (em : ExtendedMantissa) (k : Nat) : (em >>> k).mantissa = em.mantissa / 2 ^ k := by
  show (k.repeat ExtendedMantissa.shiftRightOne em).mantissa = em.mantissa / 2 ^ k
  induction k with
  | zero => simp [Nat.repeat]
  | succ k ih =>
    rw [Nat.repeat, ExtendedMantissa.shiftRightOne, ih, Nat.div_div_eq_div_mul, ← Nat.pow_succ]

theorem mantissa_ofMantissaAndAccuracy (m : Nat) (acc : Accuracy) :
    (ExtendedMantissa.ofMantissaAndAccuracy m acc).mantissa = m := by
  rcases acc with _ | (_ | _ | _) <;> rfl

theorem accuracy_ofMantissaAndAccuracy (m : Nat) (acc : Accuracy) :
    (ExtendedMantissa.ofMantissaAndAccuracy m acc).accuracy = acc := by
  rcases acc with _ | (_ | _ | _) <;> rfl

theorem Stands.shiftRightOne (h : Stands em.mantissa x em.accuracy) :
    Stands em.shiftRightOne.mantissa (x / 2) em.shiftRightOne.accuracy := by
  obtain ⟨m, r, t⟩ := em
  have hm : (m : ℚ) = 2 * (m / 2 : Nat) + (m % 2 : Nat) := by exact_mod_cast (Nat.div_add_mod m 2).symm
  rw [ExtendedMantissa.shiftRightOne]
  rcases Nat.mod_two_eq_zero_or_one m with hmod | hmod <;> rw [hmod] at hm ⊢ <;> push_cast at hm <;>
    cases r <;> cases t <;> simp only [Stands, ExtendedMantissa.accuracy] at h <;>
    simp [Stands, ExtendedMantissa.accuracy] <;> first | linarith | (constructor <;> linarith)

theorem Stands.shiftRight (h : Stands em.mantissa x em.accuracy) (k : Nat) :
    Stands (em >>> k).mantissa (x / 2 ^ k) (em >>> k).accuracy := by
  change Stands (k.repeat ExtendedMantissa.shiftRightOne em).mantissa _
    (k.repeat ExtendedMantissa.shiftRightOne em).accuracy
  induction k with
  | zero => simpa [Nat.repeat] using h
  | succ k ih =>
    rw [Nat.repeat, pow_succ, ← div_div]
    exact ih.shiftRightOne

theorem stands_quotient (m : Nat) (hn : 0 < n) : Stands (m / n) (m / n) (accuracyOfFraction (m % n) n) := by
  have hpos : (0 : ℚ) < n := by exact_mod_cast hn
  have hquotient : (m : ℚ) / n = (m / n : Nat) + (m % n : Nat) / n := by
    rw [div_eq_iff hpos.ne', add_mul, div_mul_cancel₀ _ hpos.ne', mul_comm]
    exact_mod_cast (Nat.div_add_mod m n).symm
  have hlt : ((m % n : Nat) : ℚ) / n < 1 := by
    rw [div_lt_one hpos]
    exact_mod_cast Nat.mod_lt m hn
  rw [hquotient, accuracyOfFraction]
  split_ifs with hzero
  · rw [hzero]
    simp [Stands]
  · have hrest : (0 : ℚ) < (m % n : Nat) / n := by
      have hne : (0 : ℚ) < (m % n : Nat) := by exact_mod_cast Nat.pos_of_ne_zero hzero
      positivity
    cases hcmp : compare (2 * (m % n)) n with
    | lt =>
      have hhalf : ((m % n : Nat) : ℚ) / n < 1 / 2 := by
        rw [div_lt_div_iff₀ hpos two_pos]
        exact_mod_cast (by rw [compare_lt_iff_lt] at hcmp; omega : m % n * 2 < 1 * n)
      exact ⟨by linarith, by linarith⟩
    | eq =>
      have hhalf : ((m % n : Nat) : ℚ) / n = 1 / 2 := by
        rw [div_eq_div_iff hpos.ne' two_ne_zero]
        exact_mod_cast (by rw [compare_eq_iff_eq] at hcmp; omega : m % n * 2 = 1 * n)
      rw [Stands, hhalf]
    | gt =>
      have hhalf : (1 : ℚ) / 2 < (m % n : Nat) / n := by
        rw [div_lt_div_iff₀ two_pos hpos]
        exact_mod_cast (by rw [compare_gt_iff_gt] at hcmp; omega : 1 * n < m % n * 2)
      exact ⟨by linarith, by linarith⟩

/-! ### Mantissas -/

/-- Of all numbers with a canonical mantissa the nearest one, of two the one with the even mantissa. -/
structure IsClosest (q : ℚ) (m : Nat) (e : Int) : Prop where
  canonical : IsCanonical m e
  le : ∀ n f, IsCanonical n f → |(m : ℚ) * 2 ^ e - q| ≤ |(n : ℚ) * 2 ^ f - q|
  even : ∀ n f, IsCanonical n f → (n : ℚ) * 2 ^ f ≠ m * 2 ^ e → |(n : ℚ) * 2 ^ f - q| = |(m : ℚ) * 2 ^ e - q| → Even m

theorem eq_of_scaled_eq (hm : IsCanonical m e) (hn : IsCanonical n f) (heq : (m : ℚ) * 2 ^ e = n * 2 ^ f) :
    m = n ∧ e = f := by
  have hle := (scaled_le_iff hm hn).mp heq.le
  have hge := (scaled_le_iff hn hm).mp heq.ge
  omega

theorem IsClosest.eq_of_isCanonical (h : IsClosest (n * 2 ^ f) m e) (hn : IsCanonical n f) : m = n ∧ e = f := by
  have hle := h.le n f hn
  rw [sub_self, abs_zero, abs_nonpos_iff, sub_eq_zero] at hle
  exact eq_of_scaled_eq h.canonical hn hle

theorem isClosest_self (hm : IsCanonical m e) : IsClosest (m * 2 ^ e) m e where
  canonical := hm
  le n f _ := by simp
  even n f _ hne htie := by
    rw [sub_self, abs_zero, abs_eq_zero, sub_eq_zero] at htie
    exact absurd htie hne

theorem abs_scaled_sub (m : ℚ) (e : Int) (x : ℚ) : |m * 2 ^ e - x * 2 ^ e| = |m - x| * 2 ^ e := by
  have hpos : (0 : ℚ) < 2 ^ e := zpow_pos two_pos e
  rw [← sub_mul, abs_mul, abs_of_pos hpos]

/-- The mantissa may be rounded at an exponent with which the number has 53 digits, or at the least one. Numbers with
    lower exponents are farther away than the first one with this exponent. -/
theorem IsRounded.isClosest (h : IsRounded x n) (hdigits : 2 ^ 52 ≤ x ∨ e = -1074) (hm : IsCanonical m f)
    (heq : (m : ℚ) * 2 ^ f = n * 2 ^ e) (heven : Even n → Even m) : IsClosest (x * 2 ^ e) m f := by
  have hpos : (0 : ℚ) < 2 ^ e := zpow_pos two_pos e
  have hcases : ∀ k g, IsCanonical k g → (∃ j : Nat, (k : ℚ) * 2 ^ g = j * 2 ^ e) ∨
      |(n : ℚ) * 2 ^ e - x * 2 ^ e| < |(k : ℚ) * 2 ^ g - x * 2 ^ e| := by
    intro k g hk
    rcases le_or_gt e g with hle | hlt
    · obtain ⟨j, hj⟩ := Int.eq_ofNat_of_zero_le (by omega : 0 ≤ g - e)
      obtain rfl : g = j + e := by omega
      refine .inl ⟨k * 2 ^ j, ?_⟩
      rw [zpow_add₀ two_ne_zero, zpow_natCast]
      push_cast
      ring
    · right
      have hx : 2 ^ 52 ≤ x := hdigits.resolve_right fun heq => absurd hk.least (by omega)
      have hbelow : (k : ℚ) * 2 ^ g < 2 ^ 52 * 2 ^ e := by
        have hklt : (k : ℚ) < 2 ^ 53 := by exact_mod_cast hk.lt
        calc (k : ℚ) * 2 ^ g < 2 ^ 53 * 2 ^ g := by gcongr
          _ = 2 ^ 52 * 2 ^ (g + 1) := by rw [zpow_add_one₀ two_ne_zero]; ring
          _ ≤ 2 ^ 52 * 2 ^ e := by gcongr <;> [norm_num; omega]
      have hfirst : |(n : ℚ) - x| ≤ x - 2 ^ 52 := by
        have hle := h.le (2 ^ 52)
        rwa [Nat.cast_pow, Nat.cast_ofNat, abs_sub_comm (2 ^ 52), abs_of_nonneg (sub_nonneg.mpr hx)] at hle
      calc |(n : ℚ) * 2 ^ e - x * 2 ^ e| = |(n : ℚ) - x| * 2 ^ e := abs_scaled_sub n e x
        _ ≤ (x - 2 ^ 52) * 2 ^ e := mul_le_mul_of_nonneg_right hfirst hpos.le
        _ < x * 2 ^ e - k * 2 ^ g := by linarith
        _ ≤ |(k : ℚ) * 2 ^ g - x * 2 ^ e| := by rw [abs_sub_comm]; exact le_abs_self _
  refine ⟨hm, ?_, ?_⟩
  · intro k g hk
    rw [heq]
    rcases hcases k g hk with ⟨j, hj⟩ | hlt
    · rw [hj, abs_scaled_sub, abs_scaled_sub]
      exact mul_le_mul_of_nonneg_right (h.le j) hpos.le
    · exact hlt.le
  · intro k g hk hne htie
    rw [heq] at hne htie
    rcases hcases k g hk with ⟨j, hj⟩ | hlt
    · rw [hj] at hne htie
      rw [abs_scaled_sub, abs_scaled_sub] at htie
      exact heven (h.even_of_eq (k := j) (fun hjn => hne (by rw [hjn])) (mul_right_cancel₀ hpos.ne' htie))
    · exact absurd htie hlt.ne'

/-- A number rounded to a double without an upper bound for the exponent. -/
inductive RoundsTo (s : Sign) (q : ℚ) : UnpackedFloat → Prop
  | zero : IsClosest q 0 (-1074) → RoundsTo s q (.zero s)
  | finite {m : Nat} {e : Int} {hm : 0 < m} : IsClosest q m e → RoundsTo s q (.finite s m e hm)

theorem log2_eq_of_bounds {m k : Nat} (h₁ : 2 ^ k ≤ m) (h₂ : m < 2 ^ (k + 1)) : m.log2 = k :=
  (Nat.log2_eq_iff (by have := Nat.two_pow_pos k; omega)).mpr ⟨h₁, h₂⟩

theorem log2_mul_two_pow {m : Nat} (hm : 0 < m) (k : Nat) : (m * 2 ^ k).log2 = m.log2 + k := by
  obtain ⟨h₁, h₂⟩ := (Nat.log2_eq_iff hm.ne').mp rfl
  apply log2_eq_of_bounds
  · rw [Nat.pow_add]
    exact Nat.mul_le_mul_right _ h₁
  · rw [Nat.add_right_comm, Nat.pow_add]
    exact Nat.mul_lt_mul_of_pos_right h₂ (Nat.two_pow_pos _)

theorem targetExponent_eq (t : Int) : Format.binary64.targetExponent t = max (t - 53) (-1074) := by
  simp only [Format.targetExponent, Format.mantissaBits, Format.minExponent]
  omega

theorem shiftToTargetExponent_of_target (hk : (max (m.log2 + e - 52) (-1074) - e).toNat = k) :
    shiftToTargetExponent .binary64 m e acc = (ExtendedMantissa.ofMantissaAndAccuracy m acc >>> k, e + k) := by
  have htarget : (m.log2 + 1 + e - 53 : Int) = m.log2 + e - 52 := by omega
  rw [shiftToTargetExponent, shiftToExponent, targetExponent_eq, totalExponent, htarget, hk]

/-- The first shift leaves 53 digits, or fewer at the least exponent. -/
theorem exists_shift (h : Stands m x acc) (hdigits : 52 ≤ m.log2 ∨ e ≤ -1074) :
    ∃ (k : Nat) (em : ExtendedMantissa), shiftToTargetExponent .binary64 m e acc = (em, e + k) ∧
      Stands em.mantissa (x / 2 ^ k) em.accuracy ∧ -1074 ≤ e + k ∧ x / 2 ^ k < 2 ^ 53 ∧
      (2 ^ 52 ≤ x / 2 ^ k ∨ e + k = -1074) := by
  obtain ⟨k, hk⟩ : ∃ k, (max (m.log2 + e - 52) (-1074) - e).toNat = k := ⟨_, rfl⟩
  have hpos : (0 : ℚ) < 2 ^ k := by positivity
  obtain ⟨hlow, hhigh⟩ := h.bounds
  refine ⟨k, _, shiftToTargetExponent_of_target hk, ?_, by omega, ?_, ?_⟩
  · apply Stands.shiftRight
    rwa [mantissa_ofMantissaAndAccuracy, accuracy_ofMantissaAndAccuracy]
  · have hm : m + 1 ≤ 2 ^ (53 + k) :=
      Nat.lt_log2_self.trans_le (Nat.pow_le_pow_right two_pos (by omega))
    have hm' : (m : ℚ) + 1 ≤ 2 ^ 53 * 2 ^ k := by
      rw [← pow_add]
      exact_mod_cast hm
    rw [div_lt_iff₀ hpos]
    linarith
  · by_cases hleast : e + k = -1074
    · exact .inr hleast
    · left
      have hne : m ≠ 0 := by
        rintro rfl
        simp at hdigits hk
        omega
      have hm : 2 ^ (52 + k) ≤ m := (Nat.le_log2 hne).mp (by omega)
      have hm' : (2 : ℚ) ^ 52 * 2 ^ k ≤ m := by
        rw [← pow_add]
        exact_mod_cast hm
      rw [le_div_iff₀ hpos]
      linarith

/-- Rounding up may add a digit, which the second shift takes away again. -/
theorem exists_shift_rounded (hle : n ≤ 2 ^ 53) (hleast : -1074 ≤ e) (hnormal : 2 ^ 52 ≤ n ∨ e = -1074) :
    ∃ (em : ExtendedMantissa) (f : Int), shiftToTargetExponent .binary64 n e .exact = (em, f) ∧
      IsCanonical em.mantissa f ∧ (em.mantissa : ℚ) * 2 ^ f = n * 2 ^ e ∧ (Even n → Even em.mantissa) := by
  rcases hle.lt_or_eq with hlt | rfl
  · have hlog : n.log2 ≤ 52 := by
      rcases Nat.eq_zero_or_pos n with rfl | hpos
      · simp
      · have hlog := (Nat.log2_lt hpos.ne').mpr hlt
        omega
    refine ⟨_, _, shiftToTargetExponent_of_target (k := 0) (by omega), ?_⟩
    rw [mantissa_shiftRight, mantissa_ofMantissaAndAccuracy, pow_zero, Nat.div_one, Nat.cast_zero, add_zero]
    exact ⟨⟨hlt, hleast, hnormal⟩, rfl, id⟩
  · refine ⟨_, _, shiftToTargetExponent_of_target (k := 1) (by rw [Nat.log2_two_pow]; omega), ?_⟩
    rw [mantissa_shiftRight, mantissa_ofMantissaAndAccuracy, Nat.cast_one, zpow_add_one₀ two_ne_zero]
    refine ⟨⟨by norm_num, by omega, .inl (by norm_num)⟩, ?_, fun _ => by decide⟩
    norm_num
    ring

/-- Rounding with accuracy gives the closest number, provided that no digit is missing in front of those that the
    accuracy is about. -/
theorem roundsTo_roundWithAccuracy (s : Sign) (h : Stands m x acc) (hdigits : 52 ≤ m.log2 ∨ e ≤ -1074) :
    RoundsTo s (x * 2 ^ e) (roundWithAccuracy .binary64 s m e acc) := by
  obtain ⟨k, em, hshift, hem, hleast, hlt, hnormal⟩ := exists_shift h hdigits
  have hrounded : IsRounded (x / 2 ^ k) em.roundedMantissa := hem.isRounded
  have hscaled : x * 2 ^ e = x / 2 ^ k * 2 ^ (e + k) := by
    rw [zpow_add₀ two_ne_zero, zpow_natCast]
    field_simp
  obtain ⟨hbelow, habove⟩ := abs_le.mp hrounded.near
  have hle : em.roundedMantissa ≤ 2 ^ 53 := by
    have hlt : (em.roundedMantissa : ℚ) < 2 ^ 53 + 1 := by linarith
    exact Nat.lt_succ_iff.mp (by exact_mod_cast hlt)
  have hnormal' : 2 ^ 52 ≤ em.roundedMantissa ∨ e + k = -1074 := by
    refine hnormal.imp_left fun hx => ?_
    have hlt : (2 : ℚ) ^ 52 < em.roundedMantissa + 1 := by linarith
    exact Nat.lt_succ_iff.mp (by exact_mod_cast hlt)
  obtain ⟨em', f, hshift', hcanonical, heq, heven⟩ := exists_shift_rounded hle hleast hnormal'
  have hclosest := hrounded.isClosest hnormal hcanonical heq heven
  rw [roundWithAccuracy, hshift, hscaled]
  dsimp only
  rw [hshift']
  dsimp only
  split_ifs with hzero
  · rw [hzero] at hclosest
    obtain rfl : f = -1074 := hclosest.canonical.normal.resolve_left (by norm_num)
    exact .zero hclosest
  · exact .finite hclosest

/-! ### Operations -/

theorem roundsTo_mul (s₁ s₂ : Sign) {m₁ m₂ : Nat} {e₁ e₂ : Int} {h₁ : 0 < m₁} {h₂ : 0 < m₂}
    (hdigits : 2 ^ 52 ≤ m₁ * m₂) : RoundsTo (s₁ * s₂) (m₁ * 2 ^ e₁ * (m₂ * 2 ^ e₂))
      (UnpackedFloat.mul .binary64 (.finite s₁ m₁ e₁ h₁) (.finite s₂ m₂ e₂ h₂)) := by
  have hproduct : (m₁ * 2 ^ e₁ * (m₂ * 2 ^ e₂) : ℚ) = (m₁ * m₂ : Nat) * 2 ^ (e₁ + e₂) := by
    rw [zpow_add₀ two_ne_zero]
    push_cast
    ring
  have hne : m₁ * m₂ ≠ 0 := by positivity
  rw [UnpackedFloat.mul, hproduct]
  exact roundsTo_roundWithAccuracy _ (show Stands (m₁ * m₂) _ .exact from rfl) (.inl ((Nat.le_log2 hne).mpr hdigits))

/-- A quotient is taken after a shift that leaves it 53 digits, or as many as it has at the least exponent. -/
theorem roundsTo_div (s₁ s₂ : Sign) {m₁ m₂ : Nat} {e₁ e₂ : Int} {h₁ : 0 < m₁} {h₂ : 0 < m₂} :
    RoundsTo (s₁ / s₂) (m₁ * 2 ^ e₁ / (m₂ * 2 ^ e₂))
      (UnpackedFloat.div .binary64 (.finite s₁ m₁ e₁ h₁) (.finite s₂ m₂ e₂ h₂)) := by
  have htarget : Format.binary64.targetExponent (totalExponent m₁ e₁ - totalExponent m₂ e₂) =
      max (m₁.log2 + e₁ - (m₂.log2 + e₂) - 53) (-1074) := by
    rw [targetExponent_eq, totalExponent, totalExponent]
    omega
  obtain ⟨t, ht⟩ : ∃ t, min (e₁ - e₂) (max (m₁.log2 + e₁ - (m₂.log2 + e₂) - 53) (-1074)) = t := ⟨_, rfl⟩
  obtain ⟨k, hk⟩ : ∃ k, (e₁ - e₂ - t).toNat = k := ⟨_, rfl⟩
  have hpos : (0 : ℚ) < m₂ := by exact_mod_cast h₂
  have hquotient : (m₁ * 2 ^ e₁ / (m₂ * 2 ^ e₂) : ℚ) = ((m₁ <<< k : Nat) : ℚ) / m₂ * 2 ^ t := by
    obtain rfl : e₁ = e₂ + (t + k) := by omega
    rw [Nat.shiftLeft_eq, zpow_add₀ two_ne_zero, zpow_add₀ two_ne_zero, zpow_natCast]
    push_cast
    field_simp
  have hdigits : 52 ≤ (m₁ <<< k / m₂).log2 ∨ t ≤ -1074 := by
    by_cases hleast : t ≤ -1074
    · exact .inr hleast
    · left
      have hlog := log2_mul_two_pow h₁ k
      have hhigh : m₂ < 2 ^ (m₂.log2 + 1) := Nat.lt_log2_self
      have hlow : 2 ^ (m₂.log2 + 1 + 52) ≤ m₁ * 2 ^ k := (Nat.le_log2 (by positivity)).mp (by omega)
      have hle : 2 ^ 52 ≤ m₁ * 2 ^ k / m₂ := by
        rw [Nat.le_div_iff_mul_le h₂]
        rw [pow_add] at hlow
        nlinarith
      rw [Nat.shiftLeft_eq]
      exact (Nat.le_log2 (by omega)).mpr hle
  rw [UnpackedFloat.div, divCore, htarget, ht, hk, hquotient]
  exact roundsTo_roundWithAccuracy _ (stands_quotient _ h₂) hdigits

/-! ### Doubles -/

/-- From here on numbers are rounded to infinity: `2 ^ 1024` less half a step of the largest doubles. -/
def overflow : ℚ := (2 ^ 54 - 1) * 2 ^ (970 : Int)

/-- A decoded double is the nearest one to a number with a sign, of two the one with the even mantissa. -/
inductive IsNearest (s : Sign) (q : ℚ) : UnpackedFloat → Prop
  | zero : IsClosest q 0 (-1074) → IsNearest s q (.zero s)
  | finite {m : Nat} {e : Int} {hm : 0 < m} : q < overflow → IsClosest q m e → IsNearest s q (.finite s m e hm)
  | infinite : overflow ≤ q → IsNearest s q (.infinity s)

theorem isCanonical_largest : IsCanonical (2 ^ 53 - 1) 971 :=
  ⟨by norm_num, by norm_num, .inl (by norm_num)⟩

theorem isCanonical_next : IsCanonical (2 ^ 52) 972 :=
  ⟨by norm_num, by norm_num, .inl (by norm_num)⟩

theorem largest_eq : ((2 ^ 53 - 1 : Nat) : ℚ) * 2 ^ (971 : Int) = (2 ^ 54 - 2) * 2 ^ (970 : Int) := by
  have hcast : ((2 ^ 53 - 1 : Nat) : ℚ) = 2 ^ 53 - 1 := by norm_num
  rw [hcast, show (971 : Int) = 970 + 1 by rfl, zpow_add_one₀ two_ne_zero]
  ring

theorem next_eq : ((2 ^ 52 : Nat) : ℚ) * 2 ^ (972 : Int) = 2 ^ 54 * 2 ^ (970 : Int) := by
  rw [show (972 : Int) = 970 + 1 + 1 by rfl, zpow_add_one₀ two_ne_zero, zpow_add_one₀ two_ne_zero, Nat.cast_pow,
    Nat.cast_ofNat]
  ring

/-- A number is rounded to infinity if it is nearer to `2 ^ 1024` than to the largest double, and in the middle, because
    the mantissa of this double is odd. -/
theorem IsClosest.exponent_le_iff (h : IsClosest q m e) : e ≤ 971 ↔ q < overflow := by
  have hlargest := h.le _ _ isCanonical_largest
  have hnext := h.le _ _ isCanonical_next
  have htie := h.even _ _ isCanonical_next
  rw [largest_eq] at hlargest
  rw [next_eq] at hnext htie
  have hle_largest := scaled_le_iff h.canonical isCanonical_largest
  have hlargest_le := scaled_le_iff isCanonical_largest h.canonical
  have hnext_le := scaled_le_iff isCanonical_next h.canonical
  rw [largest_eq] at hle_largest hlargest_le
  rw [next_eq] at hnext_le
  have hpos : (0 : ℚ) < 2 ^ (970 : Int) := by positivity
  rw [overflow]
  generalize (2 : ℚ) ^ (970 : Int) = step at *
  have hcanonical := h.canonical
  constructor
  · intro he
    have hv := hle_largest.mpr (by have := hcanonical.lt; omega)
    by_contra hq
    rw [abs_sub_comm ((m : ℚ) * 2 ^ e), abs_of_nonneg (a := q - (m : ℚ) * 2 ^ e) (by linarith)] at hnext htie
    rcases le_or_gt q (2 ^ 54 * step) with hqnext | hqnext
    · rw [abs_of_nonneg (by linarith)] at hnext htie
      have heven := htie (by linarith) (by linarith)
      have hmax := hlargest_le.mp (by linarith)
      have hlt := hcanonical.lt
      rw [Nat.even_iff] at heven
      omega
    · rw [abs_of_neg (by linarith)] at hnext
      linarith
  · intro hq
    by_contra he
    have hnormal := hcanonical.normal
    have hv := hnext_le.mpr (by omega)
    rw [abs_of_nonneg (a := (m : ℚ) * 2 ^ e - q) (by linarith)] at hlargest
    rcases le_or_gt q ((2 ^ 54 - 2) * step) with hqlargest | hqlargest
    · rw [abs_of_nonneg (by linarith)] at hlargest
      linarith
    · rw [abs_of_neg (by linarith)] at hlargest
      linarith

theorem unpack_packComponents {s : Sign} {e : Int} (m : BitVec 52) (hmin : -1074 ≤ e) (hmax : e ≤ 971) :
    ∃ h, UnpackedFloat.unpack .binary64
      (packComponents .binary64 s (BitVec.ofNat 11 (e + 1075).toNat) m) = .finite s (1#1 ++ m).toNat e h := by
  have hnat : (BitVec.ofNat 11 (e + 1075).toNat).toNat = (e + 1075).toNat := by
    rw [BitVec.toNat_ofNat, Nat.mod_eq_of_lt (by omega)]
  have hne : ∀ k : BitVec 11, (e + 1075).toNat ≠ k.toNat → BitVec.ofNat 11 (e + 1075).toNat ≠ k :=
    fun k hk h => hk (by rw [← h, hnat])
  refine ⟨by rw [toNat_normal]; omega, ?_⟩
  rw [UnpackedFloat.unpack]
  simp only [unpackExponent_packComponents, unpackMantissa_packComponents, unpackSign_packComponents,
    Sign.ofBitVec_toBitVec]
  rw [if_neg (hne (-1#11) (by simp; omega)), if_neg (hne 0#11 (by simp; omega))]
  congr 1
  rw [hnat]
  simp only [Format.exponentBias]
  omega

theorem unpack_packComponents_least {d : BitVec 52} (hd : d ≠ 0#52) :
    ∃ h, UnpackedFloat.unpack .binary64 (packComponents .binary64 s 0#11 d) = .finite s d.toNat (-1074) h := by
  refine ⟨Nat.pos_of_ne_zero fun hzero => hd (BitVec.eq_of_toNat_eq hzero), ?_⟩
  rw [UnpackedFloat.unpack]
  simp only [unpackExponent_packComponents, unpackMantissa_packComponents, unpackSign_packComponents,
    Sign.ofBitVec_toBitVec]
  rw [if_neg (by decide), if_pos trivial, dif_neg hd]
  rfl

theorem decode_pack_zero (s : Sign) : decode (.ofModel (.pack (.zero s))) = .zero s := by
  cases s <;> rfl

theorem decode_pack_infinity (s : Sign) : decode (.ofModel (.pack (.infinity s))) = .infinity s := by
  cases s <;> rfl

/-- Packing a double keeps it unless its exponent is too large; then it becomes infinite. -/
theorem decode_pack (h : IsCanonical m e) (hm : 0 < m) : decode (.ofModel (.pack (.finite s m e hm))) =
    if e ≤ 971 then .finite s m e hm else .infinity s := by
  have hmantissa : ∀ {m' : Nat} {hm' : 0 < m'}, m' = m →
      UnpackedFloat.finite s m' e hm' = .finite s m e hm := by
    rintro _ _ rfl
    rfl
  have hexp : (e + Format.binary64.exponentBias + (52 : Nat)).toNat = (e + 1075).toNat := by
    simp only [Format.exponentBias]
    omega
  have hleast := h.least
  have hlt := h.lt
  show UnpackedFloat.unpack .binary64 (UnpackedFloat.pack .binary64 (.finite s m e hm)) = _
  rw [UnpackedFloat.pack]
  dsimp only
  rw [hexp]
  by_cases he : e ≤ 971
  · rw [if_neg (by omega), if_pos he]
    split_ifs with hdigits
    · have hnormal : 2 ^ 52 ≤ m := (Nat.le_log2 hm.ne').mp (by simp only [Format.mantissaBits] at hdigits; omega)
      obtain ⟨hm', hunpack⟩ := unpack_packComponents (s := s) (BitVec.ofNat 52 m) hleast he
      rw [hunpack]
      refine hmantissa ?_
      rw [toNat_normal, BitVec.toNat_ofNat]
      omega
    · have hsmall : m < 2 ^ 52 := by
        by_contra hge
        exact hdigits (by rw [log2_eq_of_bounds (not_lt.mp hge) hlt]; rfl)
      have hnat : (BitVec.ofNat 52 m).toNat = m := by rw [BitVec.toNat_ofNat, Nat.mod_eq_of_lt hsmall]
      have hne : BitVec.ofNat 52 m ≠ 0#52 := fun hzero => hm.ne (by rw [← hnat, hzero]; rfl)
      obtain rfl : e = -1074 := h.normal.resolve_left (by omega)
      obtain ⟨hm', hunpack⟩ := unpack_packComponents_least (s := s) hne
      rw [hunpack]
      exact hmantissa hnat
  · rw [if_pos (by omega), if_neg he]
    cases s <;> rfl

theorem RoundsTo.isNearest (h : RoundsTo s q u) : IsNearest s q (decode (.ofModel (.pack u))) := by
  cases h with
  | zero hclosest =>
    rw [decode_pack_zero]
    exact .zero hclosest
  | finite hclosest =>
    rw [decode_pack hclosest.canonical]
    split_ifs with he
    · exact .finite (hclosest.exponent_le_iff.mp he) hclosest
    · exact .infinite (not_lt.mp (mt hclosest.exponent_le_iff.mpr he))

/-! ### Uniqueness -/

/-- Of two closest numbers the lower one has an even mantissa, so the next mantissa is that of the other one, which
    would be odd and even then. -/
theorem IsClosest.value_le (h : IsClosest q m e) (h' : IsClosest q n f) : (n : ℚ) * 2 ^ f ≤ m * 2 ^ e := by
  by_contra hle
  have hlt := not_le.mp hle
  have hdist := le_antisymm (h.le n f h'.canonical) (h'.le m e h.canonical)
  have heven := h.even n f h'.canonical hlt.ne' hdist.symm
  have heven' := h'.even m e h.canonical hlt.ne hdist
  have hbelow := h.canonical.lt
  rw [Nat.even_iff] at heven heven'
  have hnext : IsCanonical (m + 1) e := ⟨by omega, h.canonical.least, h.canonical.normal.imp_left fun hm => by omega⟩
  have hnext_le : ((m + 1 : Nat) : ℚ) * 2 ^ e ≤ n * 2 ^ f := by
    have hnot := mt (scaled_le_iff h'.canonical h.canonical).mpr hlt.not_ge
    exact (scaled_le_iff hnext h'.canonical).mpr (by omega)
  have hdist_next := h.le _ _ hnext
  have hpos : (0 : ℚ) < 2 ^ e := zpow_pos two_pos e
  push_cast at hnext_le hdist_next
  have hmiddle : q = (m * 2 ^ e + n * 2 ^ f) / 2 := by
    rcases abs_eq_abs.mp hdist with heq | heq
    · linarith
    · linarith
  have heq : ((m + 1 : Nat) : ℚ) * 2 ^ e = n * 2 ^ f := by
    push_cast
    refine le_antisymm hnext_le ?_
    by_contra hgap
    rw [not_le] at hgap
    rw [abs_of_neg (a := (m : ℚ) * 2 ^ e - q) (by linarith)] at hdist_next
    exact absurd hdist_next (not_le.mpr (abs_lt.mpr ⟨by linarith, by linarith⟩))
  have hmantissa := (eq_of_scaled_eq hnext h'.canonical heq).1
  omega

theorem IsClosest.unique (h : IsClosest q m e) (h' : IsClosest q n f) : m = n ∧ e = f :=
  eq_of_scaled_eq h.canonical h'.canonical (le_antisymm (h'.value_le h) (h.value_le h'))

theorem IsNearest.unique {v : UnpackedFloat} (h : IsNearest s q u) (h' : IsNearest s q v) : u = v := by
  -- Zero is far below the numbers that are rounded to infinity.
  have hzero : IsClosest q 0 (-1074) → ¬overflow ≤ q := fun hclosest =>
    not_le.mpr (hclosest.exponent_le_iff.mp (by norm_num))
  cases h with
  | zero hclosest =>
    cases h' with
    | zero => rfl
    | finite hlt hclosest' =>
      obtain ⟨rfl, rfl⟩ := hclosest.unique hclosest'
      contradiction
    | infinite hle => exact absurd hle (hzero hclosest)
  | finite hlt hclosest =>
    cases h' with
    | zero hclosest' =>
      obtain ⟨rfl, rfl⟩ := hclosest.unique hclosest'
      contradiction
    | finite hlt' hclosest' =>
      obtain ⟨rfl, rfl⟩ := hclosest.unique hclosest'
      rfl
    | infinite hle => exact absurd hlt hle.not_gt
  | infinite hle =>
    cases h' with
    | zero hclosest' => exact absurd hle (hzero hclosest')
    | finite hlt' hclosest' => exact absurd hlt' hle.not_gt
    | infinite => rfl

theorem decode_injective {x y : Float} (h : decode x = decode y) : x = y := by
  obtain ⟨⟨⟨b⟩, hb⟩⟩ := x
  obtain ⟨⟨⟨c⟩, hc⟩⟩ := y
  obtain rfl : b = c := (unpack_inj_of_valid hb hc).mp h
  rfl

end AirspaceRaster.Binary64
