import AirspaceRaster.Proofs.Number.Scientific

/-! The magnitude of doubles. A power of two is a double itself, so the nearest double to a number is not below a power
    of two that the number reaches; a lower bound that is a power of two can be computed as if nothing was rounded. -/

namespace AirspaceRaster.Binary64
open Float.Model Float.Model.UnpackedFloat

variable {m n : Nat} {e f t t' : Int} {q : ℚ} {s : Sign} {u : UnpackedFloat} {x y : Float}

/-- A double of sign `s` that reaches two to the power of `t`: an infinite one, or one with a mantissa of
    53 digits and a large enough exponent. -/
def Reaches (s : Sign) (t : Int) : UnpackedFloat → Prop
  | .infinity s' => s' = s
  | .finite s' m e _ => s' = s ∧ m.log2 = 52 ∧ t ≤ 52 + e
  | _ => False

theorem reaches_iff : Reaches s t u ↔
    u = .infinity s ∨ ∃ m e h, u = .finite s m e h ∧ m.log2 = 52 ∧ t ≤ 52 + e := by
  cases u with
  | infinity s' => simp [Reaches]
  | notANumber => simp [Reaches]
  | zero s' => simp [Reaches]
  | finite s' m e h => simp [Reaches, h, and_assoc]

/-! ### Rounding -/

/-- The closest canonical number is not below one that the number itself is not below. -/
theorem IsClosest.le_of_le (h : IsClosest q m e) (hn : IsCanonical n f) (hle : (n : ℚ) * 2 ^ f ≤ q) :
    (n : ℚ) * 2 ^ f ≤ m * 2 ^ e := by
  by_contra hlt
  have hdist := h.le n f hn
  rw [abs_sub_comm, abs_of_nonneg (by linarith), abs_sub_comm, abs_of_nonneg (by linarith)] at hdist
  linarith

theorem isCanonical_twoPow (ht : -1022 ≤ t) : IsCanonical (2 ^ 52) (t - 52) :=
  ⟨by norm_num, by omega, .inl le_rfl⟩

theorem twoPow_eq (t : Int) : ((2 ^ 52 : Nat) : ℚ) * 2 ^ (t - 52) = 2 ^ t := by
  rw [zpow_sub₀ two_ne_zero]
  norm_num
  field_simp

/-- The nearest double to a number keeps the powers of two that the number reaches. -/
theorem IsNearest.reaches (h : IsNearest s q u) (ht : -1022 ≤ t) (hle : 2 ^ t ≤ q) : Reaches s t u := by
  rw [← twoPow_eq] at hle
  cases h with
  | zero hclosest =>
    have hbelow := (scaled_le_iff (isCanonical_twoPow ht) hclosest.canonical).mp
      (hclosest.le_of_le (isCanonical_twoPow ht) hle)
    omega
  | @finite m e hm _ hclosest =>
    have hcanonical := hclosest.canonical
    have hbelow := (scaled_le_iff (isCanonical_twoPow ht) hcanonical).mp
      (hclosest.le_of_le (isCanonical_twoPow ht) hle)
    have hdigits : 2 ^ 52 ≤ m := by
      have hnormal := hcanonical.normal
      omega
    exact ⟨rfl, log2_eq_of_bounds hdigits hcanonical.lt, by omega⟩
  | infinite => rfl

/-! ### Operations -/

theorem reaches_ofInt {k : Int} (hk : k ≠ 0) :
    Reaches (if k < 0 then .negative else .positive) k.natAbs.log2 (decode (Float.ofInt k)) := by
  have hle : 2 ^ k.natAbs.log2 ≤ k.natAbs := Nat.log2_self_le (Int.natAbs_ne_zero.mpr hk)
  exact (isNearest_ofInt hk).reaches (by omega) (by exact_mod_cast hle)

/-- A quotient by a positive double that does not reach a power of two reaches the quotient of the powers. -/
theorem Reaches.div {hn : 0 < n} (hx : Reaches s t (decode x)) (hy : decode y = .finite .positive n f hn)
    (ht' : -1022 ≤ t') (h : t' + (53 + f) ≤ t) : Reaches s t' (decode (x / y)) := by
  have hs : s / Sign.positive = s := by cases s <;> rfl
  show Reaches s t' (decode (.ofModel (.pack (UnpackedFloat.div .binary64 (decode x) (decode y)))))
  rw [hy]
  obtain hx | ⟨m, e, hm, hx, hlog, hte⟩ := reaches_iff.mp hx
  · rw [hx, UnpackedFloat.div, hs, decode_pack_infinity]
    exact rfl
  · have hnearest : IsNearest (s / .positive) (m * 2 ^ e / (n * 2 ^ f))
        (decode (.ofModel (.pack (UnpackedFloat.div .binary64 (.finite s m e hm) (.finite .positive n f hn))))) :=
      (roundsTo_div s .positive).isNearest
    rw [hs] at hnearest
    rw [hx]
    refine hnearest.reaches ht' ?_
    have hlow : (2 : ℚ) ^ 52 ≤ m := by exact_mod_cast (Nat.le_log2 hm.ne').mp hlog.ge
    have hhigh : (n : ℚ) < 2 ^ 53 := by exact_mod_cast (isCanonical_of_decode hy).lt
    rw [le_div_iff₀ (by positivity)]
    calc (2 : ℚ) ^ t' * (n * 2 ^ f) ≤ 2 ^ t' * (2 ^ 53 * 2 ^ f) := by gcongr
      _ = 2 ^ (t' + (53 + f)) := by rw [zpow_add₀ two_ne_zero, zpow_add₀ two_ne_zero]; norm_cast
      _ ≤ 2 ^ (52 + e) := zpow_le_zpow_right₀ one_le_two (h.trans hte)
      _ = 2 ^ 52 * 2 ^ e := by rw [zpow_add₀ two_ne_zero]; norm_cast
      _ ≤ m * 2 ^ e := by gcongr

end AirspaceRaster.Binary64
