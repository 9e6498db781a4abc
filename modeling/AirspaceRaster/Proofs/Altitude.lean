import Mathlib.Order.Defs.LinearOrder
import AirspaceRaster.Altitude

/-! Altitudes as a linear order. -/

namespace AirspaceRaster.Altitude

instance : LinearOrder Altitude where
  le_refl a := by rw [le_def]; omega
  le_trans a b c hab hbc := by rw [le_def] at *; omega
  lt_iff_le_not_ge a b := by rw [le_def, le_def, lt_def]; omega
  le_antisymm _ _ := le_antisymm
  le_total a b := by rw [le_def, le_def]; omega
  toDecidableLE := inferInstance
  toDecidableLT := inferInstance
  toDecidableEq := inferInstance
  compare_eq_compareOfLessAndEq _ _ := rfl

theorem feet_le_of_le {a b : Altitude} (h : a ≤ b) : a.feet ≤ b.feet := by
  rw [le_def] at h
  omega

end AirspaceRaster.Altitude
