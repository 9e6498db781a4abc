import AirspaceRaster.Level.Decoded
import AirspaceRaster.Proofs.Number.Magnitude

/-! The ceilings of levels. A level is used if the value of its ceiling is not zero, so one with a
    ceiling of less than half a step cannot be told from padding. -/

namespace AirspaceRaster
open Float.Model Float.Model.UnpackedFloat

namespace Binary64

theorem roundScaled_pos {m : Nat} {e : Int} (hm : m.log2 = 52) (he : -1 ≤ 52 + e) : 0 < roundScaled m e := by
  have hlow : 2 ^ 52 ≤ m := (Nat.le_log2 (by rintro rfl; simp at hm)).mp hm.ge
  rw [roundScaled]
  split
  · rw [Nat.shiftLeft_eq]
    exact Nat.mul_pos (by omega) (Nat.two_pow_pos _)
  · have hpow : 2 ^ (-e).toNat ≤ 2 ^ 53 := Nat.pow_le_pow_right (by decide) (by omega)
    rw [Nat.one_shiftLeft, Nat.one_shiftLeft]
    exact Nat.div_pos (by rw [Nat.pow_succ]; omega) (Nat.two_pow_pos _)

/-- A double of at least one half is rounded to at least one. -/
theorem upTo_nearest_pos {x : Float} {t : Int} (hx : Reaches .positive t (decode x)) (ht : -1 ≤ t) {k : Nat}
    (hk : 0 < k) : 0 < (nearest x).upTo k := by
  obtain hx | ⟨m, e, hm, hx, hlog, hte⟩ := reaches_iff.mp hx
  · simpa [nearest, hx, Whole.upTo, Whole.saturate] using hk
  · have := roundScaled_pos hlog (ht.trans hte)
    simp only [nearest, hx, Whole.upTo, Whole.saturate, Sign.apply]
    omega

theorem upTo_nearest_of_negative {x : Float} {t : Int} (hx : Reaches .negative t (decode x)) (k : Nat) :
    (nearest x).upTo k = 0 := by
  obtain hx | ⟨m, e, hm, hx, -⟩ := reaches_iff.mp hx
  · simp [nearest, hx, Whole.upTo, Whole.saturate]
  · simp only [nearest, hx, Whole.upTo, Whole.saturate, Sign.apply]
    omega

end Binary64

namespace Level

theorem reaches_steps {n t : Int} (hn : n ≠ 0) (ht : t + 8 ≤ n.natAbs.log2) (ht' : -1022 ≤ t) :
    Binary64.Reaches (if n < 0 then .negative else .positive) t
      (Binary64.decode (Float.ofInt n / Float.ofInt 250)) := by
  have h250 : Binary64.decode (Float.ofInt 250) = .finite .positive (250 * 2 ^ 45) (-45) (by decide) := rfl
  exact (Binary64.reaches_ofInt hn).div h250 ht' (by omega)

theorem altitudeValue_eq_zero_iff_of_lt : ∀ n : Fin 128,
    altitudeValue ⟨n, .sea⟩ (Scalar.ofInt 250 : Float) = 0 ↔ n.val < 125 := by
  decide +kernel

/-- With steps of 250 feet an altitude is rounded to zero if it is below 125 feet. -/
theorem altitudeValue_eq_zero_iff (a : Altitude) : altitudeValue a (Scalar.ofInt 250 : Float) = 0 ↔ a.feet < 125 := by
  obtain ⟨n, r⟩ := a
  show (Binary64.nearest (Float.ofInt n / Float.ofInt 250)).upTo Byte.maxValue = 0 ↔ n < 125
  rcases lt_or_ge n 0 with hneg | hnonneg
  · have h := reaches_steps (t := -8) hneg.ne (by omega) (by decide)
    rw [if_pos hneg] at h
    exact iff_of_true (Binary64.upTo_nearest_of_negative h _) (by omega)
  rcases lt_or_ge n 128 with hlt | hge
  · have := altitudeValue_eq_zero_iff_of_lt ⟨n.toNat, by omega⟩
    simp only [Int.toNat_of_nonneg hnonneg] at this
    exact this.trans (by omega)
  · have hlog : 7 ≤ n.natAbs.log2 := (Nat.le_log2 (by omega)).mpr (by omega)
    have h := reaches_steps (n := n) (t := -1) (by omega) (by omega) (by decide)
    rw [if_neg (by omega)] at h
    exact iff_of_false (Binary64.upTo_nearest_pos h le_rfl (by decide)).ne' (by omega)

end Level

end AirspaceRaster
