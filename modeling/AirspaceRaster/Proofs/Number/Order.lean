import AirspaceRaster.Number.Scalar

/-! The order of numbers. What is chosen among vectors depends on comparing distances, and all that
    counts for it is that any two defined numbers can be compared and that the order is transitive. -/

namespace AirspaceRaster

/-- Numbers whose order is transitive and compares any two that are defined. -/
class Scalar.Ordered (R : Type) [Scalar R] : Prop where
  le_total : ∀ {x y : R}, isDefined x = true → isDefined y = true → x ≤ y ∨ y ≤ x
  le_trans : ∀ {x y z : R}, x ≤ y → y ≤ z → x ≤ z

end AirspaceRaster
