import Mathlib.Algebra.Order.Floor.Ring
import Mathlib.Algebra.Order.Round
import AirspaceRaster.Proofs.Number.Order

/-! Exact numbers as scalars: an ordered field in which every number lies between integers, such as the
    rationals. Nothing is rounded here except where whole numbers are asked for. -/

namespace AirspaceRaster.Exact

variable {K : Type} [Field K] [LinearOrder K] [FloorRing K]

/-- The nearest integer, a half going away from zero. -/
def nearest (x : K) : Int :=
  if 0 ≤ x then ⌊x + 1 / 2⌋ else -⌊-x + 1 / 2⌋

def remainder (x y : K) : K :=
  x - y * if 0 ≤ x / y then ⌊x / y⌋ else ⌈x / y⌉

scoped instance : Scalar K where
  decLe := inferInstance
  decLt := inferInstance
  ofInt n := n
  nearest x := .of (nearest x)
  floor x := .of ⌊x⌋
  remainder := remainder

scoped instance : Scalar.Ordered K where
  le_total _ _ := le_total _ _
  le_trans := le_trans

theorem isDefined (x : K) : Scalar.isDefined x = true :=
  beq_self_eq_true x

theorem ofInt_natCast (n : Nat) : (Scalar.ofInt n : K) = n :=
  Int.cast_natCast n

theorem nearest_mono [IsStrictOrderedRing K] {x y : K} (h : x ≤ y) : nearest x ≤ nearest y := by
  unfold nearest
  split
  · rename_i hx
    rw [if_pos (hx.trans h)]
    exact Int.floor_mono (by linarith)
  · split
    · rename_i hx hy
      have h1 : 0 ≤ ⌊-x + 1 / 2⌋ := Int.floor_nonneg.mpr (by linarith)
      have h2 : 0 ≤ ⌊y + 1 / 2⌋ := Int.floor_nonneg.mpr (by linarith)
      omega
    · exact neg_le_neg (Int.floor_mono (by linarith))

theorem nearest_intCast [IsStrictOrderedRing K] (n : Int) : nearest (n : K) = n := by
  have hfloor : ∀ m : Int, ⌊(m : K) + 1 / 2⌋ = m := fun m => by
    rw [Int.floor_eq_iff]
    constructor <;> linarith
  unfold nearest
  split
  · exact hfloor n
  · rw [← Int.cast_neg, hfloor, neg_neg]

/-- A number and the nearest integer are at most one half apart. -/
theorem abs_nearest_sub_le [IsStrictOrderedRing K] (x : K) : |(nearest x : K) - x| ≤ 1 / 2 := by
  unfold nearest
  rw [abs_le]
  split
  · have h₁ := Int.floor_le (x + 1 / 2)
    have h₂ := Int.lt_floor_add_one (x + 1 / 2)
    constructor <;> linarith
  · have h₁ := Int.floor_le (-x + 1 / 2)
    have h₂ := Int.lt_floor_add_one (-x + 1 / 2)
    rw [Int.cast_neg]
    constructor <;> linarith

/-- An integer that is less than one half away is the nearest one. -/
theorem nearest_eq_of_abs_lt [IsStrictOrderedRing K] {x : K} {n : Int} (h : |x - n| < 1 / 2) : nearest x = n := by
  have hdiff : |((nearest x - n : Int) : K)| < 1 := by
    rw [Int.cast_sub]
    calc |(nearest x : K) - n| ≤ |(nearest x : K) - x| + |x - n| := abs_sub_le _ x _
      _ < 1 / 2 + 1 / 2 := add_lt_add_of_le_of_lt (abs_nearest_sub_le x) h
      _ = 1 := add_halves 1
  rw [← Int.cast_abs, ← Int.cast_one, Int.cast_lt, Int.abs_lt_one_iff] at hdiff
  exact sub_eq_zero.mp hdiff

/-- A half goes up, so a positive integer is reached one half before it. -/
theorem le_nearest_iff [IsStrictOrderedRing K] {x : K} {n : Int} (hn : 0 < n) : n ≤ nearest x ↔ (n : K) - 1 / 2 ≤ x := by
  have hone : (1 : K) ≤ n := by exact_mod_cast hn
  unfold nearest
  split
  · rw [Int.le_floor, sub_le_iff_le_add]
  · rename_i hx
    have hfloor : 0 ≤ ⌊-x + 1 / 2⌋ := Int.floor_nonneg.mpr (by linarith)
    refine iff_of_false ?_ ?_
    · omega
    · intro hle
      linarith

theorem nearest_le_of_le [IsStrictOrderedRing K] {x : K} {n : Int} (h : x ≤ n) : nearest x ≤ n :=
  (nearest_mono h).trans_eq (nearest_intCast n)

theorem le_nearest_of_le [IsStrictOrderedRing K] {x : K} {n : Int} (h : (n : K) ≤ x) : n ≤ nearest x :=
  (nearest_intCast n).symm.trans_le (nearest_mono h)

end AirspaceRaster.Exact
