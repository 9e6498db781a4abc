import Mathlib
import AirspaceRaster.Number.Binary64
import AirspaceRaster.Proofs.Number.Order

/-! The order of doubles. Each double that is a number has a place among all of them, and zeros of both
    signs share one; comparing doubles is comparing their places. -/

namespace AirspaceRaster

namespace Binary64
open Float.Model (UnpackedFloat)
open Float.Model.UnpackedFloat (Sign beq_iff_ne_notANumber_and_eq)

/-- The place of a double in the order: first by its sign and whether it is infinite, then by exponent
    and mantissa, both of them reversed below zero. -/
def place : UnpackedFloat → Int ×ₗ Int ×ₗ Int
  | .infinity s => toLex (s.apply 2, toLex (0, 0))
  | .notANumber => toLex (0, toLex (0, 0))
  | .zero _ => toLex (0, toLex (0, 0))
  | .finite s m e _ => toLex (s.apply 1, toLex (s.apply e, s.apply m))

theorem isLE_compare_then {e f : Int} {m n : Nat} :
    ((compare e f).then (compare m n)).isLE = true ↔ e < f ∨ e = f ∧ m ≤ n := by
  rcases lt_trichotomy e f with h | rfl | h
  · simp [compare_lt_iff_lt.mpr h, h]
  · simp [Nat.isLE_compare]
  · simp [compare_gt_iff_gt.mpr h, h.le, h.ne']

theorem isGE_compare_then {e f : Int} {m n : Nat} :
    ((compare e f).then (compare m n)).isGE = true ↔ f < e ∨ e = f ∧ n ≤ m := by
  rcases lt_trichotomy e f with h | rfl | h
  · simp [compare_lt_iff_lt.mpr h, h.le, h.ne]
  · simp [Nat.isGE_compare]
  · simp [compare_gt_iff_gt.mpr h, h]

/-- Comparing doubles is comparing their places, except that nothing is comparable to what is not a
    number. -/
theorem unpacked_le_iff {a b : UnpackedFloat} :
    a.le b = true ↔ a ≠ .notANumber ∧ b ≠ .notANumber ∧ place a ≤ place b := by
  rcases a with (_ | _) | _ | (_ | _) | ⟨_ | _, m, e, _⟩ <;>
    rcases b with (_ | _) | _ | (_ | _) | ⟨_ | _, n, f, _⟩ <;>
      simp [UnpackedFloat.le, UnpackedFloat.compare, place, Sign.apply, Prod.Lex.toLex_le_toLex,
        isLE_compare_then, isGE_compare_then]
  -- What is left are the comparisons of two infinities.
  all_goals rfl

theorem float_le_iff {x y : Float} : x ≤ y ↔
    decode x ≠ .notANumber ∧ decode y ≠ .notANumber ∧ place (decode x) ≤ place (decode y) := by
  rw [← unpacked_le_iff]
  show decide ((decode x).le (decode y) = true) = true ↔ _
  rw [decide_eq_true_iff]

/-- Doubles that share a place are the same, or zeros of either sign. -/
theorem place_eq_iff {a b : UnpackedFloat} (ha : a ≠ .notANumber) (hb : b ≠ .notANumber) : place a = place b ↔
    a = b ∨ a = .zero .positive ∧ b = .zero .negative ∨ a = .zero .negative ∧ b = .zero .positive := by
  rcases a with (_ | _) | _ | (_ | _) | ⟨_ | _, m, e, _⟩ <;>
    rcases b with (_ | _) | _ | (_ | _) | ⟨_ | _, n, f, _⟩ <;> simp [place, Sign.apply, and_comm] at *

theorem beq_iff_le_and_le {x y : Float} : (x == y) = true ↔ x ≤ y ∧ y ≤ x := by
  show (decode x).beq (decode y) = true ↔ _
  rw [beq_iff_ne_notANumber_and_eq, float_le_iff, float_le_iff]
  constructor
  · rintro ⟨hx, hy, h⟩
    have hplace := (place_eq_iff hx hy).mpr h
    exact ⟨⟨hx, hy, hplace.le⟩, hy, hx, hplace.ge⟩
  · rintro ⟨⟨hx, hy, hxy⟩, -, -, hyx⟩
    exact ⟨hx, hy, (place_eq_iff hx hy).mp (le_antisymm hxy hyx)⟩

theorem isDefined_iff {x : Float} : Scalar.isDefined x = true ↔ decode x ≠ .notANumber := by
  show (decode x).beq (decode x) = true ↔ _
  simp [beq_iff_ne_notANumber_and_eq]

instance : Scalar.Ordered Float where
  le_total hx hy := by
    simp only [float_le_iff, isDefined_iff] at *
    exact (le_total _ _).imp (fun h => ⟨hx, hy, h⟩) fun h => ⟨hy, hx, h⟩
  le_trans hxy hyz := by
    simp only [float_le_iff] at *
    exact ⟨hxy.1, hyz.2.1, hxy.2.2.trans hyz.2.2⟩

end Binary64

end AirspaceRaster
