import AirspaceRaster.Proofs.Number.Exact
import AirspaceRaster.Proofs.Number.Place

/-! Comparisons that fit together: a number is less than another one if it is not above it while the other one is,
    and equal to it if neither is above. So the smaller and the larger of two numbers and the ends of a list of
    numbers are what they are in a linear order, except that equal ends need not be the same number: a zero has two
    signs. -/

namespace AirspaceRaster

/-- Numbers whose comparisons all come from the order. -/
class Scalar.Comparable (R : Type) [Scalar R] : Prop extends Scalar.Ordered R where
  lt_iff : ∀ {x y : R}, x < y ↔ x ≤ y ∧ ¬y ≤ x
  beq_iff : ∀ {x y : R}, (x == y) = true ↔ x ≤ y ∧ y ≤ x

/-! ### Exact numbers -/

namespace Exact

variable {K : Type} [Field K] [LinearOrder K] [FloorRing K]

scoped instance : Scalar.Comparable K where
  lt_iff := lt_iff_le_not_ge
  beq_iff := beq_iff_eq.trans le_antisymm_iff

end Exact

/-! ### Doubles -/

namespace Binary64
open Float.Model (UnpackedFloat)
open Float.Model.UnpackedFloat (Sign)

theorem compare_then_eq_lt {e f : Int} {m n : Nat} :
    (compare e f).then (compare m n) = .lt ↔ e < f ∨ e = f ∧ m < n := by
  rcases lt_trichotomy e f with h | rfl | h
  · simp [compare_lt_iff_lt.mpr h, h]
  · simp [compare_lt_iff_lt]
  · simp [compare_gt_iff_gt.mpr h, h.not_gt, h.ne']

theorem compare_then_eq_gt {e f : Int} {m n : Nat} :
    (compare e f).then (compare m n) = .gt ↔ f < e ∨ e = f ∧ n < m := by
  rcases lt_trichotomy e f with h | rfl | h
  · simp [compare_lt_iff_lt.mpr h, h.not_gt, h.ne]
  · simp [compare_gt_iff_gt]
  · simp [compare_gt_iff_gt.mpr h, h]

theorem unpacked_lt_iff {a b : UnpackedFloat} :
    a.lt b = true ↔ a ≠ .notANumber ∧ b ≠ .notANumber ∧ place a < place b := by
  rcases a with (_ | _) | _ | (_ | _) | ⟨_ | _, m, e, _⟩ <;>
    rcases b with (_ | _) | _ | (_ | _) | ⟨_ | _, n, f, _⟩ <;>
      simp [UnpackedFloat.lt, UnpackedFloat.compare, place, Sign.apply, Prod.Lex.toLex_lt_toLex,
        compare_then_eq_lt, compare_then_eq_gt]
  -- What is left is a comparison of two infinities.
  all_goals rfl

theorem float_lt_iff {x y : Float} : x < y ↔ x ≤ y ∧ ¬y ≤ x := by
  have hplace : x < y ↔ decode x ≠ .notANumber ∧ decode y ≠ .notANumber ∧ place (decode x) < place (decode y) := by
    rw [← unpacked_lt_iff]
    show decide ((decode x).lt (decode y) = true) = true ↔ _
    rw [decide_eq_true_iff]
  rw [hplace, float_le_iff, float_le_iff, lt_iff_le_not_ge]
  tauto

instance : Scalar.Comparable Float where
  lt_iff := float_lt_iff
  beq_iff := beq_iff_le_and_le

end Binary64

/-! ### The smaller and the larger number -/

namespace Scalar

variable {R : Type} [Scalar R] {x y lo hi lo' hi' : R} {xs ys : List R}

theorem least_eq_or (x y : R) : least x y = x ∨ least x y = y :=
  ite_eq_or_eq _ x y

theorem greatest_eq_or (x y : R) : greatest x y = x ∨ greatest x y = y :=
  ite_eq_or_eq _ x y

variable [Comparable R]

theorem isDefined_iff_le : isDefined x = true ↔ x ≤ x := by
  rw [isDefined, Comparable.beq_iff, and_self]

theorem le_of_not_lt (hx : isDefined x = true) (hy : isDefined y = true) (h : ¬x < y) : y ≤ x := by
  rcases Ordered.le_total hx hy with hle | hle
  · rw [Comparable.lt_iff, not_and_not_right] at h
    exact h hle
  · exact hle

theorem least_le (hx : isDefined x = true) (hy : isDefined y = true) : least x y ≤ x ∧ least x y ≤ y := by
  rw [least, hy]
  simp only [Bool.true_eq_false, or_false]
  split
  · rename_i h
    exact ⟨isDefined_iff_le.mp hx, (Comparable.lt_iff.mp h).1⟩
  · rename_i h
    exact ⟨le_of_not_lt hx hy h, isDefined_iff_le.mp hy⟩

theorem le_greatest (hx : isDefined x = true) (hy : isDefined y = true) : x ≤ greatest x y ∧ y ≤ greatest x y := by
  rw [greatest, hy]
  simp only [Bool.true_eq_false, or_false]
  split
  · rename_i h
    exact ⟨isDefined_iff_le.mp hx, (Comparable.lt_iff.mp h).1⟩
  · rename_i h
    exact ⟨le_of_not_lt hy hx h, isDefined_iff_le.mp hy⟩

/-! ### The ends of a list -/

/-- Two numbers of a list between which all numbers of it lie. -/
structure Ends (xs : List R) (lo hi : R) : Prop where
  lo_mem : lo ∈ xs
  hi_mem : hi ∈ xs
  le : ∀ x ∈ xs, lo ≤ x ∧ x ≤ hi

theorem Ends.isDefined (h : Ends xs lo hi) : isDefined lo = true ∧ Scalar.isDefined hi = true := by
  rw [isDefined_iff_le, isDefined_iff_le]
  exact ⟨(h.le lo h.lo_mem).1, (h.le hi h.hi_mem).2⟩

theorem ends_singleton (hx : isDefined x = true) : Ends [x] x x := by
  refine ⟨List.mem_singleton_self x, List.mem_singleton_self x, ?_⟩
  intro y hy
  rw [List.mem_singleton.mp hy]
  exact ⟨isDefined_iff_le.mp hx, isDefined_iff_le.mp hx⟩

theorem Ends.append (h : Ends xs lo hi) (h' : Ends ys lo' hi') : Ends (xs ++ ys) (least lo lo') (greatest hi hi') := by
  obtain ⟨hlo, hlo'⟩ := least_le h.isDefined.1 h'.isDefined.1
  obtain ⟨hhi, hhi'⟩ := le_greatest h.isDefined.2 h'.isDefined.2
  refine ⟨?_, ?_, ?_⟩
  · rw [List.mem_append]
    rcases least_eq_or lo lo' with heq | heq <;> rw [heq]
    · exact Or.inl h.lo_mem
    · exact Or.inr h'.lo_mem
  · rw [List.mem_append]
    rcases greatest_eq_or hi hi' with heq | heq <;> rw [heq]
    · exact Or.inl h.hi_mem
    · exact Or.inr h'.hi_mem
  · intro x hx
    rcases List.mem_append.mp hx with hx | hx
    · exact ⟨Ordered.le_trans hlo (h.le x hx).1, Ordered.le_trans (h.le x hx).2 hhi⟩
    · exact ⟨Ordered.le_trans hlo' (h'.le x hx).1, Ordered.le_trans (h'.le x hx).2 hhi'⟩

/-- Lists of the same numbers have equal ends. -/
theorem Ends.beq (h : Ends xs lo hi) (h' : Ends ys lo' hi') (hmem : ∀ x, x ∈ xs ↔ x ∈ ys) :
    (lo == lo') = true ∧ (hi == hi') = true := by
  rw [Comparable.beq_iff, Comparable.beq_iff]
  exact ⟨⟨(h.le lo' ((hmem lo').mpr h'.lo_mem)).1, (h'.le lo ((hmem lo).mp h.lo_mem)).1⟩,
    (h'.le hi ((hmem hi).mp h.hi_mem)).2, (h.le hi' ((hmem hi').mpr h'.hi_mem)).2⟩

end Scalar

end AirspaceRaster
