import AirspaceRaster.Proofs.Number.Rounding

/-! Doubles of decimals. A few digits and a small power of ten are two doubles, and their product or quotient is rounded
    once; otherwise the digits and the power of ten are multiplied or divided as whole numbers and the result is
    rounded once. So a decimal gives the nearest double. The double of an integer is a special case, and an integer
    that does not have too many digits is its double. -/

namespace AirspaceRaster.Binary64
open Float.Model Float.Model.UnpackedFloat

variable {m n k : Nat} {e f : Int} {q r : ℚ} {s : Sign} {x y : Float}

theorem IsNearest.neg (h : IsNearest s q (decode x)) : IsNearest (-s) q (decode (-x)) := by
  show IsNearest (-s) q (decode (.ofModel (.pack (UnpackedFloat.neg (decode x)))))
  generalize decode x = u at h
  cases h with
  | zero hclosest =>
    rw [UnpackedFloat.neg, decode_pack_zero]
    exact .zero hclosest
  | finite hlt hclosest =>
    rw [UnpackedFloat.neg, decode_pack hclosest.canonical, if_pos (hclosest.exponent_le_iff.mpr hlt)]
    exact .finite hlt hclosest
  | infinite hle =>
    rw [UnpackedFloat.neg, decode_pack_infinity]
    exact .infinite hle

/-! ### Exact doubles -/

/-- What is the number of a double is rounded to this double. -/
theorem IsNearest.decode_eq (h : IsNearest s (m * 2 ^ e) (decode x)) (hm : IsCanonical m e) (hpos : 0 < m)
    (he : e ≤ 971) : decode x = .finite s m e hpos := by
  have hlt := (isClosest_self hm).exponent_le_iff.mp he
  generalize decode x = u at h
  cases h with
  | zero hclosest => exact absurd (hclosest.eq_of_isCanonical hm).1 hpos.ne
  | finite _ hclosest =>
    obtain ⟨rfl, rfl⟩ := hclosest.eq_of_isCanonical hm
    rfl
  | infinite hle => exact absurd hlt (not_lt.mpr hle)

/-- A number of at most 53 digits is shifted up to 53 of them, and nothing is left to round. -/
theorem exists_shiftLeft (hm : 0 < m) (hlt : m < 2 ^ 53) : ∃ k : Nat, m.log2 + k = 52 ∧ 2 ^ 52 ≤ m <<< k ∧
    IsCanonical (m <<< k) (-k) ∧ ((m <<< k : Nat) : ℚ) * 2 ^ (-k : Int) = m := by
  have hlog := (Nat.log2_lt hm.ne').mpr hlt
  obtain ⟨k, hk⟩ := Nat.exists_eq_add_of_le (Nat.lt_succ_iff.mp hlog)
  obtain ⟨hlow, hhigh⟩ : 2 ^ 52 ≤ m * 2 ^ k ∧ m * 2 ^ k < 2 ^ 53 := by
    have hdigits : (m * 2 ^ k).log2 = 52 := by
      rw [log2_mul_two_pow hm]
      omega
    exact (Nat.log2_eq_iff (by positivity)).mp hdigits
  refine ⟨k, hk.symm, ?_⟩
  rw [Nat.shiftLeft_eq]
  refine ⟨hlow, ⟨hhigh, by omega, .inl hlow⟩, ?_⟩
  rw [zpow_neg, zpow_natCast]
  push_cast
  field_simp

/-- The double stands for the positive number and has 53 digits. -/
def IsExactly (x : Float) (q : ℚ) : Prop :=
  ∃ m e hm, decode x = .finite .positive m e hm ∧ 2 ^ 52 ≤ m ∧ (m : ℚ) * 2 ^ e = q

theorem isExactly_toFloat (hm : 0 < m) (hlt : m < 2 ^ 53) : IsExactly m.toUInt64.toFloat m := by
  have hnat : m.toUInt64.toNat = m := by rw [UInt64.toNat_ofNat', Nat.mod_eq_of_lt (by omega)]
  have hcompare : compare (m : Int) 0 = .gt := compare_gt_iff_gt.mpr (by omega)
  obtain ⟨k, hk, hdigits, hcanonical, hscaled⟩ := exists_shiftLeft hm hlt
  have htarget : Format.binary64.targetExponent (totalExponent m 0) = -k := by
    rw [targetExponent_eq, totalExponent]
    omega
  have hround : RoundsTo .positive m (UnpackedFloat.ofUInt64 .binary64 m.toUInt64) := by
    rw [UnpackedFloat.ofUInt64, UnpackedFloat.ofNat, UnpackedFloat.ofInt, hnat, UnpackedFloat.normalize, hcompare]
    dsimp only
    rw [Int.toNat_natCast, UnpackedFloat.round, htarget, decreaseExponent, sub_neg_eq_add, zero_add, zero_sub,
      Int.toNat_natCast, ← hscaled]
    exact roundsTo_roundWithAccuracy _ (show Stands (m <<< k) _ .exact from rfl)
      (.inl ((Nat.le_log2 (by omega)).mpr hdigits))
  have hnearest : IsNearest .positive m (decode m.toUInt64.toFloat) := hround.isNearest
  rw [← hscaled] at hnearest ⊢
  exact ⟨_, _, _, hnearest.decode_eq hcanonical (by omega) (by omega), hdigits, rfl⟩

theorem IsExactly.mul (hx : IsExactly x q) (hy : IsExactly y r) : IsNearest .positive (q * r) (decode (x * y)) := by
  obtain ⟨m, e, hm, hdx, hdigits, rfl⟩ := hx
  obtain ⟨n, f, hn, hdy, -, rfl⟩ := hy
  show IsNearest _ _ (decode (.ofModel (.pack (UnpackedFloat.mul .binary64 (decode x) (decode y)))))
  rw [hdx, hdy]
  exact (roundsTo_mul .positive .positive (by nlinarith)).isNearest

theorem IsExactly.div (hx : IsExactly x q) (hy : IsExactly y r) : IsNearest .positive (q / r) (decode (x / y)) := by
  obtain ⟨m, e, hm, hdx, -, rfl⟩ := hx
  obtain ⟨n, f, hn, hdy, -, rfl⟩ := hy
  show IsNearest _ _ (decode (.ofModel (.pack (UnpackedFloat.div .binary64 (decode x) (decode y)))))
  rw [hdx, hdy]
  exact (roundsTo_div .positive .positive).isNearest

/-- Whether a decoded double is a power of ten, told without rational numbers. -/
def isTenTo (k : Nat) : UnpackedFloat → Bool
  | .finite .positive m e _ => decide (2 ^ 52 ≤ m) && m * 2 ^ e.toNat == 10 ^ k * 2 ^ (-e).toNat
  | _ => false

theorem isTenTo_powersOfTen : ∀ k : Fin 23, isTenTo k (decode Float.exactlyRepresentablePowersOfTen[k]) = true := by
  decide +kernel

theorem isExactly_powerOfTen (hk : k < Float.exactlyRepresentablePowersOfTen.size) :
    IsExactly Float.exactlyRepresentablePowersOfTen[k] (10 ^ k) := by
  have hten := isTenTo_powersOfTen ⟨k, hk⟩
  change isTenTo k (decode Float.exactlyRepresentablePowersOfTen[k]) = true at hten
  generalize Float.exactlyRepresentablePowersOfTen[k] = x at hten
  cases hx : decode x with
  | zero s => rw [hx] at hten; cases hten
  | infinity s => rw [hx] at hten; cases hten
  | notANumber => rw [hx] at hten; cases hten
  | finite s m e hm =>
    rw [hx] at hten
    cases s with
    | negative => cases hten
    | positive =>
      rw [isTenTo, Bool.and_eq_true, decide_eq_true_eq, beq_iff_eq] at hten
      obtain ⟨hdigits, heq⟩ := hten
      refine ⟨m, e, hm, hx, hdigits, ?_⟩
      have heq' : (m : ℚ) * 2 ^ e.toNat = 10 ^ k * 2 ^ (-e).toNat := by exact_mod_cast heq
      have hpos : (0 : ℚ) < 2 ^ (-e).toNat := by positivity
      refine mul_right_cancel₀ hpos.ne' ?_
      rw [← heq', mul_assoc, ← zpow_natCast, ← zpow_natCast, ← zpow_add₀ two_ne_zero]
      congr 2
      omega

/-- Numbers up to half of the least double are rounded to zero. -/
theorem isClosest_zero (hnonneg : 0 ≤ q) (hle : q ≤ 2 ^ (-1075 : Int)) : IsClosest q 0 (-1074) := by
  have hpos : (0 : ℚ) < 2 ^ (-1074 : Int) := by positivity
  have hhalf : q / 2 ^ (-1074 : Int) ≤ 1 / 2 := by
    rw [div_le_iff₀ hpos]
    refine hle.trans_eq ?_
    rw [show (-1074 : Int) = -1075 + 1 by rfl, zpow_add_one₀ two_ne_zero]
    ring
  have hrounded : IsRounded (q / 2 ^ (-1074 : Int)) 0 := by
    refine ⟨?_, fun _ => by decide⟩
    rw [Nat.cast_zero, zero_sub, abs_neg, abs_of_nonneg (by positivity)]
    exact hhalf
  have hclosest := hrounded.isClosest (.inr rfl) (m := 0) (f := -1074) ⟨by norm_num, le_rfl, .inr rfl⟩ rfl id
  rwa [div_mul_cancel₀ _ hpos.ne'] at hclosest

theorem overflow_le : overflow ≤ 10 ^ (400 : Int) := by
  have hstep : overflow ≤ 2 ^ (1024 : Int) := by
    have hpos : (0 : ℚ) < 2 ^ (970 : Int) := by positivity
    rw [overflow, show (1024 : Int) = 54 + 970 by rfl, zpow_add₀ two_ne_zero]
    exact mul_le_mul_of_nonneg_right (by norm_num) hpos.le
  have hpow : (2 : ℚ) ^ (1024 : Int) ≤ 8 ^ (400 : Int) := by
    rw [show (8 : ℚ) = 2 ^ (3 : Int) by norm_num, ← zpow_mul]
    exact zpow_le_zpow_right₀ one_le_two (by norm_num)
  have hbase : (8 : ℚ) ^ 400 ≤ 10 ^ 400 := pow_le_pow_left₀ (by norm_num) (by norm_num) _
  exact hstep.trans (hpow.trans (by exact_mod_cast hbase))

theorem tenTo_le (k : Nat) : (10 : ℚ) ^ (-k : Int) ≤ 2 ^ (-3 * k : Int) := by
  have hbase : (8 : ℚ) ^ k ≤ 10 ^ k := pow_le_pow_left₀ (by norm_num) (by norm_num) _
  rw [show (-3 * k : Int) = 3 * (-k) by ring, zpow_mul, show (2 : ℚ) ^ (3 : Int) = 8 by norm_num, zpow_neg, zpow_neg,
    zpow_natCast, zpow_natCast]
  exact inv_anti₀ (by positivity) hbase

theorem isNearest_modelOfScientific (hm : 0 < m) (e : Int) :
    IsNearest .positive (m * 10 ^ e) (decode (.ofModel (.ofScientific m e))) := by
  show IsNearest _ _ (decode (.ofModel (.pack (UnpackedFloat.ofScientific .binary64 m e))))
  have hone : (1 : ℚ) ≤ m := by exact_mod_cast hm
  rw [UnpackedFloat.ofScientific, dif_neg hm.ne']
  split_ifs with hlarge hsmall hsign
  · have he : 2048 < e := hlarge
    have hpow : (10 : ℚ) ^ (400 : Int) ≤ 10 ^ e := zpow_le_zpow_right₀ (by norm_num) (by omega)
    have hpos : (0 : ℚ) < 10 ^ e := by positivity
    exact .infinite ((overflow_le.trans hpow).trans (le_mul_of_one_le_left hpos.le hone))
  · have he : e < -(2048 + m.log2) := hsmall
    obtain ⟨k, hk⟩ := Int.eq_ofNat_of_zero_le (by omega : 0 ≤ -e)
    obtain rfl : e = -k := by omega
    have hlog : (m : ℚ) < 2 ^ (m.log2 + 1 : Int) := by exact_mod_cast Nat.lt_log2_self
    refine .zero (isClosest_zero (by positivity) ?_)
    calc (m : ℚ) * 10 ^ (-k : Int) ≤ 2 ^ (m.log2 + 1 : Int) * 2 ^ (-3 * k : Int) :=
          mul_le_mul hlog.le (tenTo_le k) (by positivity) (by positivity)
      _ = 2 ^ (m.log2 + 1 + -3 * k : Int) := (zpow_add₀ two_ne_zero _ _).symm
      _ ≤ 2 ^ (-1075 : Int) := zpow_le_zpow_right₀ one_le_two (by omega)
  · obtain ⟨k, rfl⟩ := Int.eq_ofNat_of_zero_le hsign
    have hscaled : (m * 10 ^ (k : Int) : ℚ) =
        (m <<< 53 : Nat) * 2 ^ (-53 : Int) * ((10 ^ k : Nat) * 2 ^ (0 : Int)) := by
      rw [Nat.shiftLeft_eq, zpow_natCast, zpow_zero]
      push_cast
      field_simp
      norm_num
    have hdigits : 2 ^ 52 ≤ m <<< 53 * 10 ^ k := by
      have hten := Nat.one_le_pow k 10 (by norm_num)
      rw [Nat.shiftLeft_eq]
      nlinarith
    rw [hscaled]
    exact (roundsTo_mul .positive .positive hdigits).isNearest
  · obtain ⟨k, hk⟩ := Int.eq_ofNat_of_zero_le (by omega : 0 ≤ -e)
    obtain rfl : e = -k := by omega
    have hscaled : (m * 10 ^ (-k : Int) : ℚ) =
        m * 2 ^ (0 : Int) / ((10 ^ (-(-k : Int)).toNat : Nat) * 2 ^ (0 : Int)) := by
      rw [neg_neg, Int.toNat_natCast, zpow_neg, zpow_natCast]
      push_cast
      rw [mul_one, mul_one, div_eq_mul_inv]
    rw [hscaled]
    exact (roundsTo_div .positive .positive).isNearest

/-- What is read for digits and an exponent is the nearest double. -/
theorem isNearest_ofScientific (hm : 0 < m) (down : Bool) (k : Nat) :
    IsNearest .positive (m * 10 ^ (if down then -k else k : Int)) (decode (Float.ofScientific m down k)) := by
  rw [Float.ofScientific]
  by_cases hsmall : m < 2 ^ 53 ∧ k ≤ 22
  · rw [dif_pos hsmall]
    have hpower := isExactly_powerOfTen (show k < 23 by omega)
    have hx := isExactly_toFloat hm hsmall.1
    cases down with
    | false =>
      rw [if_neg Bool.false_ne_true, zpow_natCast]
      exact hx.mul hpower
    | true =>
      rw [if_pos rfl, zpow_neg, zpow_natCast, ← div_eq_mul_inv]
      exact hx.div hpower
  · rw [dif_neg hsmall]
    cases down with
    | false => exact isNearest_modelOfScientific hm k
    | true =>
      have hneg : Int.negOfNat k = -k := Int.negOfNat_eq
      dsimp only
      rw [if_pos rfl, if_pos rfl, hneg]
      exact isNearest_modelOfScientific hm (-k)

/-! ### Integers -/

/-- The double of an integer is the nearest one. -/
theorem isNearest_ofInt {k : Int} (hk : k ≠ 0) :
    IsNearest (if k < 0 then .negative else .positive) k.natAbs (decode (Float.ofInt k)) := by
  have hnat : ∀ {n : Nat}, 0 < n → IsNearest .positive n (decode (Float.ofNat n)) := by
    intro n hn
    have hnearest := isNearest_ofScientific hn false 0
    rw [if_neg Bool.false_ne_true, Nat.cast_zero, zpow_zero, mul_one] at hnearest
    exact hnearest
  cases k with
  | ofNat n =>
    rw [if_neg (by simp)]
    exact hnat (by simpa [Nat.pos_iff_ne_zero] using hk)
  | negSucc n =>
    rw [if_pos (by omega)]
    exact (hnat n.succ_pos).neg

/-- An integer of at most 53 digits is a double. -/
theorem value?_ofInt {k : Int} (hk : |k| < 2 ^ 53) : value? (Float.ofInt k) = some (k : ℚ) := by
  rw [abs_lt] at hk
  rcases eq_or_ne k 0 with rfl | hne
  · rfl
  · obtain ⟨j, -, hdigits, hcanonical, hscaled⟩ := exists_shiftLeft (Int.natAbs_pos.mpr hne) (by omega)
    have hnearest := isNearest_ofInt hne
    rw [← hscaled] at hnearest
    rw [value?, hnearest.decode_eq hcanonical (by omega) (by omega), decodedValue?, Option.some.injEq]
    split_ifs with hneg
    · rw [Sign.apply, Int.cast_neg, Int.cast_natCast, neg_mul, hscaled, Nat.cast_natAbs, abs_of_neg hneg, Int.cast_neg,
        neg_neg]
    · rw [Sign.apply, Int.cast_natCast, hscaled, Nat.cast_natAbs, abs_of_nonneg (not_lt.mp hneg)]

/-- A double lies within some degrees of zero if it is finite and its number does. -/
theorem isWithin_ofInt_iff {k : Int} (hk : 0 ≤ k) (hk' : k < 2 ^ 53) :
    Scalar.isWithin (Scalar.ofInt (-k)) (Scalar.ofInt k) x = true ↔ ∃ q, value? x = some q ∧ |q| ≤ k := by
  have hlo : value? (Float.ofInt (-k)) = some ((-k : Int) : ℚ) := value?_ofInt (by rw [abs_lt]; omega)
  have hhi : value? (Float.ofInt k) = some (k : ℚ) := value?_ofInt (by rw [abs_lt]; omega)
  rw [Int.cast_neg] at hlo
  rw [Scalar.isWithin_iff]
  constructor
  · rintro ⟨h₁, h₂⟩
    obtain ⟨q, hq, hle, hge⟩ := exists_value?_of_le_of_le hlo hhi h₁ h₂
    exact ⟨q, hq, abs_le.mpr ⟨hle, hge⟩⟩
  · rintro ⟨q, hq, habs⟩
    rw [abs_le] at habs
    exact ⟨(le_iff_of_value? hlo hq).mpr habs.1, (le_iff_of_value? hq hhi).mpr habs.2⟩

end AirspaceRaster.Binary64
