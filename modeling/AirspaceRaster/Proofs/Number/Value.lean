import AirspaceRaster.Proofs.Number.Exact
import AirspaceRaster.Proofs.Number.Place

/-! The rational numbers that doubles stand for. A finite double has a mantissa of 53 digits unless its exponent is
    the least one, so comparing exponents and mantissas is comparing numbers. The floor of a double is the floor of
    its number, and rounding it is rounding this number. -/

namespace AirspaceRaster.Binary64
open Float.Model (UnpackedFloat)
open Float.Model.UnpackedFloat (Sign)

variable {x y lo hi : Float} {q r : ℚ} {m n : Nat} {e f : Int}

/-! ### Mantissas and exponents -/

/-- A mantissa has 53 digits, or fewer with the least exponent. -/
structure IsCanonical (m : Nat) (e : Int) : Prop where
  lt : m < 2 ^ 53
  least : -1074 ≤ e
  normal : 2 ^ 52 ≤ m ∨ e = -1074

theorem toNat_normal (m : BitVec 52) : (1#1 ++ m).toNat = 2 ^ 52 + m.toNat := by
  rw [BitVec.toNat_append, ← Nat.shiftLeft_add_eq_or_of_lt m.isLt]
  rfl

theorem isCanonical_of_decode {s : Sign} {hm : 0 < m} (h : decode x = .finite s m e hm) : IsCanonical m e := by
  rw [decode, Float.Model.unpack, UnpackedFloat.unpack] at h
  dsimp only at h
  have hbias : (Float.Model.Format.binary64.exponentBias : Int) = 1023 := rfl
  have hwidth : Float.Model.Format.binary64.mantissaBitsWithoutImplicit = 52 := rfl
  have hdigits : (@UnpackedFloat.unpackMantissa .binary64 x.toModel.toBits.toBitVec).toNat < 2 ^ 52 := BitVec.isLt _
  split_ifs at h with _ _ hleast _ <;> cases h
  · have hzero : (@UnpackedFloat.unpackExponent .binary64 x.toModel.toBits.toBitVec).toNat = 0 :=
      congrArg BitVec.toNat hleast
    exact ⟨by omega, by omega, Or.inr (by omega)⟩
  · have hne : (@UnpackedFloat.unpackExponent .binary64 x.toModel.toBits.toBitVec).toNat ≠ 0 := fun hzero =>
      hleast (BitVec.eq_of_toNat_eq hzero)
    rw [toNat_normal]
    exact ⟨by omega, by omega, Or.inl (by omega)⟩

theorem scaled_lt_of_lt (hm : IsCanonical m e) (hn : IsCanonical n f) (h : e < f) :
    (m : ℚ) * 2 ^ e < n * 2 ^ f := by
  have hnormal : (2 ^ 52 : ℚ) ≤ n := by
    rcases hn.normal with hle | rfl
    · exact_mod_cast hle
    · exact absurd h (not_lt_of_ge hm.least)
  have hlt : (m : ℚ) < 2 ^ 53 := by exact_mod_cast hm.lt
  calc (m : ℚ) * 2 ^ e < 2 ^ 53 * 2 ^ e := by gcongr
    _ = 2 ^ 52 * 2 ^ (e + 1) := by rw [zpow_add_one₀ two_ne_zero]; ring
    _ ≤ n * 2 ^ f := by gcongr <;> [norm_num; omega]

/-- Canonical numbers are compared by their exponents first and then by their mantissas. -/
theorem scaled_le_iff (hm : IsCanonical m e) (hn : IsCanonical n f) :
    (m : ℚ) * 2 ^ e ≤ n * 2 ^ f ↔ e < f ∨ e = f ∧ m ≤ n := by
  rcases lt_trichotomy e f with h | rfl | h
  · simp [h, (scaled_lt_of_lt hm hn h).le]
  · simp [zpow_pos]
  · simp [h.ne', h.le, (scaled_lt_of_lt hn hm h).not_ge]

/-! ### Values -/

def decodedValue? : UnpackedFloat → Option ℚ
  | .zero _ => some 0
  | .finite s m e _ => some (s.apply m * 2 ^ e)
  | _ => none

/-- The number that a double stands for; an infinite or undefined one stands for none. -/
def value? (x : Float) : Option ℚ :=
  decodedValue? (decode x)

theorem decode_of_value? (h : value? x = some q) : (∃ s, decode x = .zero s ∧ q = 0) ∨
    ∃ s m e hm, decode x = .finite s m e hm ∧ IsCanonical m e ∧ q = s.apply m * 2 ^ e := by
  rw [value?] at h
  cases hx : decode x with
  | infinity s => rw [hx] at h; cases h
  | notANumber => rw [hx] at h; cases h
  | zero s =>
    rw [hx] at h
    cases h
    exact Or.inl ⟨s, rfl, rfl⟩
  | finite s m e hm =>
    rw [hx] at h
    cases h
    exact Or.inr ⟨s, m, e, hm, rfl, isCanonical_of_decode hx, rfl⟩

/-- Finite doubles are compared by the numbers that they stand for. -/
theorem le_iff_of_value? (hx : value? x = some q) (hy : value? y = some r) : x ≤ y ↔ q ≤ r := by
  have hmagnitude : ∀ {m : Nat} (e : Int), 0 < m → 0 < (m : ℚ) * 2 ^ e := fun e hm => by positivity
  rw [float_le_iff]
  rcases decode_of_value? hx with ⟨s, hdx, rfl⟩ | ⟨s, m, e, hm, hdx, hmc, rfl⟩ <;>
    rcases decode_of_value? hy with ⟨t, hdy, rfl⟩ | ⟨t, n, f, hn, hdy, hnc, rfl⟩ <;> rw [hdx, hdy]
  · simp [place]
  · have hpos := hmagnitude f hn
    cases t <;> simp [place, Sign.apply, Prod.Lex.toLex_le_toLex, hpos, hpos.le]
  · have hpos := hmagnitude e hm
    cases s <;> simp [place, Sign.apply, Prod.Lex.toLex_le_toLex, hpos, hpos.le]
  · have hposm := hmagnitude e hm
    have hposn := hmagnitude f hn
    rcases s with _ | _ <;> rcases t with _ | _ <;> simp [place, Sign.apply, Prod.Lex.toLex_le_toLex]
    case negative.negative => rw [scaled_le_iff hnc hmc, eq_comm]
    case negative.positive => linarith
    case positive.negative => linarith
    case positive.positive => rw [scaled_le_iff hmc hnc]

/-- They are equal if these are; a zero is the same number with either sign. -/
theorem beq_iff_of_value? (hx : value? x = some q) (hy : value? y = some r) : (x == y) = true ↔ q = r := by
  rw [beq_iff_le_and_le, le_iff_of_value? hx hy, le_iff_of_value? hy hx, le_antisymm_iff]

theorem floor_of_value? (hx : value? x = some q) : floor x = .of ⌊q⌋ := by
  rw [floor]
  rcases decode_of_value? hx with ⟨s, hdx, rfl⟩ | ⟨s, m, e, hm, hdx, -, rfl⟩
  · rw [hdx, Int.floor_zero]
  · rw [hdx]
    dsimp only
    rw [floorScaled]
    congr 1
    split
    · rename_i he
      obtain ⟨k, rfl⟩ := Int.eq_ofNat_of_zero_le he
      rw [Int.toNat_natCast, zpow_natCast, Nat.one_shiftLeft]
      exact_mod_cast (Int.floor_intCast _).symm
    · rename_i he
      obtain ⟨k, hk⟩ := Int.eq_ofNat_of_zero_le (by omega : 0 ≤ -e)
      obtain rfl : e = -k := by omega
      rw [neg_neg, Int.toNat_natCast, Nat.one_shiftLeft, Int.fdiv_eq_ediv_of_nonneg _ (Int.natCast_nonneg _), ←
        Rat.floor_intCast_div_natCast, zpow_neg, zpow_natCast, div_eq_mul_inv, Nat.cast_pow, Nat.cast_ofNat]

theorem roundScaled_eq (m : Nat) (e : Int) : (roundScaled m e : Int) = ⌊(m : ℚ) * 2 ^ e + 1 / 2⌋ := by
  rw [roundScaled]
  split
  · rename_i he
    obtain ⟨k, rfl⟩ := Int.eq_ofNat_of_zero_le he
    have hnumber : (m : ℚ) * 2 ^ (k : Int) + 1 / 2 = ((m * 2 ^ k : Nat) : ℚ) + 1 / 2 := by push_cast; rfl
    rw [Int.toNat_natCast, Nat.shiftLeft_eq, hnumber, eq_comm, Int.floor_eq_iff]
    constructor <;> push_cast <;> linarith
  · rename_i he
    obtain ⟨k, hk⟩ := Int.eq_ofNat_of_zero_le (by omega : 0 ≤ -e)
    obtain rfl : e = -k := by omega
    have hnumber : (m : ℚ) * 2 ^ (-(k : Int)) + 1 / 2 = ((2 * m + 2 ^ k : Int) : ℚ) / (2 ^ (k + 1) : Nat) := by
      rw [zpow_neg, zpow_natCast]
      push_cast
      field_simp
      ring
    rw [neg_neg, Int.toNat_natCast, Nat.one_shiftLeft, Nat.one_shiftLeft, hnumber, Rat.floor_intCast_div_natCast]
    push_cast
    rfl

/-- Rounding a double is rounding the number that it stands for. -/
theorem nearest_of_value? (hx : value? x = some q) : nearest x = .of (Exact.nearest q) := by
  rw [nearest]
  rcases decode_of_value? hx with ⟨s, hdx, rfl⟩ | ⟨s, m, e, hm, hdx, -, rfl⟩ <;> rw [hdx]
  · have hzero := Exact.nearest_intCast (K := ℚ) 0
    rw [Int.cast_zero] at hzero
    rw [hzero]
  · have hpos : (0 : ℚ) < m * 2 ^ e := by positivity
    dsimp only
    congr 1
    rw [Exact.nearest]
    cases s with
    | negative =>
      have hneg : ((Sign.negative.apply m : Int) : ℚ) * 2 ^ e = -(m * 2 ^ e) := by simp [Sign.apply]
      rw [hneg, if_neg (by linarith), neg_neg, ← roundScaled_eq]
      rfl
    | positive =>
      have hsame : ((Sign.positive.apply m : Int) : ℚ) * 2 ^ e = m * 2 ^ e := by simp [Sign.apply]
      rw [hsame, if_pos hpos.le, ← roundScaled_eq]
      rfl
/-- What lies between finite doubles is finite. -/
theorem exists_value?_of_le_of_le (hlo : value? lo = some q) (hhi : value? hi = some r) (h₁ : lo ≤ x) (h₂ : x ≤ hi) :
    ∃ p, value? x = some p ∧ q ≤ p ∧ p ≤ r := by
  suffices h : ∃ p, value? x = some p by
    obtain ⟨p, hp⟩ := h
    exact ⟨p, hp, (le_iff_of_value? hlo hp).mp h₁, (le_iff_of_value? hp hhi).mp h₂⟩
  rw [float_le_iff] at h₁ h₂
  cases hx : decode x with
  | notANumber => exact absurd hx h₁.2.1
  | zero s => exact ⟨0, by rw [value?, hx, decodedValue?]⟩
  | finite s m e hm => exact ⟨s.apply m * 2 ^ e, by rw [value?, hx, decodedValue?]⟩
  | infinity s =>
    rcases s with _ | _
    case negative =>
      have hplace := h₁.2.2
      rcases decode_of_value? hlo with ⟨t, hdlo, -⟩ | ⟨_ | _, m, e, hm, hdlo, -⟩ <;>
        simp [hx, hdlo, place, Sign.apply, Prod.Lex.toLex_le_toLex] at hplace
    case positive =>
      have hplace := h₂.2.2
      rcases decode_of_value? hhi with ⟨t, hdhi, -⟩ | ⟨_ | _, m, e, hm, hdhi, -⟩ <;>
        simp [hx, hdhi, place, Sign.apply, Prod.Lex.toLex_le_toLex] at hplace

end AirspaceRaster.Binary64
