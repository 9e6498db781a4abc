import Mathlib.Order.Interval.Set.Basic
import AirspaceRaster.Raster.PointRecord
import AirspaceRaster.Raster.Tile

/-! How the records of a tile lie in its raster. Every grid point has a cell of its own, the cells fill the raster
    from the northern row to the southern one, and writing to one of them leaves the others as they are. -/

namespace AirspaceRaster

/-! ### Cells -/

namespace Tile
variable {n x y x' y' size : Nat}

/-- The number of cells in front of the one of grid point `(x, y)`. -/
def place (x y n : Nat) : Nat :=
  (n - 1 - y) * n + x

theorem place_div (hx : x < n) : place x y n / n = n - 1 - y := by
  rw [place, Nat.mul_comm, Nat.mul_add_div (by omega), Nat.div_eq_of_lt hx, Nat.add_zero]

theorem place_mod (hx : x < n) : place x y n % n = x := by
  rw [place, Nat.mul_comm, Nat.mul_add_mod, Nat.mod_eq_of_lt hx]

theorem place_lt_of_lt (hx : x < n) (hy : y < n) (hlt : y' < y) : place x y n < place x' y' n := by
  have hrow : (n - 1 - y + 1) * n ≤ (n - 1 - y') * n := Nat.mul_le_mul_right n (by omega)
  rw [Nat.add_mul, Nat.one_mul] at hrow
  rw [place, place]
  omega

theorem place_lt (hx : x < n) (hy : y < n) : place x y n < n * n := by
  have hrow : (n - 1 - y + 1) * n ≤ n * n := Nat.mul_le_mul_right n (by omega)
  rw [Nat.add_mul, Nat.one_mul] at hrow
  rw [place]
  omega

theorem place_inj (hx : x < n) (hy : y < n) (hx' : x' < n) (hy' : y' < n) (h : place x y n = place x' y' n) :
    x = x' ∧ y = y' := by
  have hdiv := congrArg (· / n) h
  have hmod := congrArg (· % n) h
  simp only [place_div, place_mod, hx, hx'] at hdiv hmod
  omega

theorem exists_place {k : Nat} (hk : k < n * n) : ∃ x < n, ∃ y < n, place x y n = k := by
  have hn : 0 < n := Nat.pos_of_ne_zero fun h => by simp [h] at hk
  obtain ⟨row, hrow⟩ : ∃ row, row = k / n := ⟨k / n, rfl⟩
  have hlt : row < n := hrow ▸ Nat.div_lt_of_lt_mul hk
  refine ⟨k % n, Nat.mod_lt k hn, n - 1 - row, by omega, ?_⟩
  have hback : n - 1 - (n - 1 - row) = row := by omega
  rw [place, hback, hrow, Nat.mul_comm]
  exact Nat.div_add_mod k n

/-- Different numbers of cells of one size have different bytes. -/
theorem mul_add_le_mul {k l : Nat} (h : k < l) : k * size + size ≤ l * size := by
  have := Nat.mul_le_mul_right size (Nat.succ_le_of_lt h)
  rwa [Nat.succ_mul] at this

def cell (x y n size : Nat) : Set Nat :=
  Set.Ico (cellOffset x y n size) (cellOffset x y n size + size)

/-- How the cells of a raster of `n` by `n` points lie in its bytes. -/
structure Layout (n size : Nat) : Prop where
  exact : ∀ x < n, ∀ y < n, 0 ≤ (n : Int) - 1 - y ∧ (cellOffset x y n size : Int) = ((n - 1 - y) * n + x) * size
  within : ∀ x < n, ∀ y < n, cell x y n size ⊆ Set.Ico 0 (n * n * size)
  disjoint : ∀ x < n, ∀ y < n, ∀ x' < n, ∀ y' < n, (x, y) ≠ (x', y') →
    ∀ i ∈ cell x y n size, i ∉ cell x' y' n size
  covered : ∀ i < n * n * size, ∃ x < n, ∃ y < n, i ∈ cell x y n size
  northFirst : ∀ x < n, ∀ y < n, ∀ x' < n, ∀ y' < y, cellOffset x y n size + size ≤ cellOffset x' y' n size
  northern : ∀ x < n, cellOffset x (n - 1) n size = x * size

section Exact
variable (hsize : n * n * size < Word.limit)
include hsize

theorem cellOffset_eq_place (hx : x < n) (hy : y < n) : cellOffset x y n size = place x y n * size := by
  have hle : place x y n * size ≤ n * n * size := Nat.mul_le_mul_right size (le_of_lt (place_lt hx hy))
  exact cellOffset_eq hy (lt_of_le_of_lt hle hsize)

theorem cellOffset_add_le (hx : x < n) (hy : y < n) : cellOffset x y n size + size ≤ n * n * size := by
  rw [cellOffset_eq_place hsize hx hy]
  exact mul_add_le_mul (place_lt hx hy)

/-- Of two cells one ends where the other one begins or before. -/
theorem cellOffset_add_le_or (hx : x < n) (hy : y < n) (hx' : x' < n) (hy' : y' < n) (hne : (x, y) ≠ (x', y')) :
    cellOffset x y n size + size ≤ cellOffset x' y' n size ∨
      cellOffset x' y' n size + size ≤ cellOffset x y n size := by
  rw [cellOffset_eq_place hsize hx hy, cellOffset_eq_place hsize hx' hy']
  have hplace : place x y n ≠ place x' y' n := fun h => by
    obtain ⟨rfl, rfl⟩ := place_inj hx hy hx' hy' h
    exact hne rfl
  exact (lt_or_gt_of_ne hplace).imp mul_add_le_mul mul_add_le_mul

theorem exists_cell {i : Nat} (hi : i < n * n * size) : ∃ x < n, ∃ y < n, i ∈ cell x y n size := by
  have hpos : 0 < size := Nat.pos_of_ne_zero fun h => by simp [h] at hi
  obtain ⟨x, hx, y, hy, hplace⟩ := exists_place (n := n) (k := i / size) (Nat.div_lt_of_lt_mul (by rwa [Nat.mul_comm]))
  refine ⟨x, hx, y, hy, ?_⟩
  rw [cell, cellOffset_eq_place hsize hx hy, hplace, Set.mem_Ico]
  have := Nat.div_add_mod i size
  have := Nat.mod_lt i hpos
  rw [Nat.mul_comm]
  omega

/-- If the bytes of a raster can be counted, its cells lie one behind the other from the northern row on. -/
theorem layout : Layout n size where
  exact x hx y hy := by
    have hrow : ((n - 1 - y : Nat) : Int) = n - 1 - y := by omega
    rw [cellOffset_eq_place hsize hx hy, place]
    push_cast
    rw [hrow]
    exact ⟨by omega, rfl⟩
  within x hx y hy := Set.Ico_subset_Ico (Nat.zero_le _) (cellOffset_add_le hsize hx hy)
  disjoint x hx y hy x' hx' y' hy' hne i hi hi' := by
    have := cellOffset_add_le_or hsize hx hy hx' hy' hne
    rw [cell, Set.mem_Ico] at hi hi'
    omega
  covered i hi := exists_cell hsize hi
  northFirst x hx y hy x' hx' y' hlt := by
    rw [cellOffset_eq_place hsize hx hy, cellOffset_eq_place hsize hx' (lt_trans hlt hy)]
    exact mul_add_le_mul (place_lt_of_lt hx hy hlt)
  northern x hx := by
    have hrow : n - 1 - (n - 1) = 0 := Nat.sub_self _
    rw [cellOffset_eq_place hsize hx (by omega), place, hrow, Nat.zero_mul, Nat.zero_add]

end Exact

end Tile

/-! ### Bytes of a buffer -/

namespace PointRecord
variable {buffer : Array UInt8} {offset start size : Nat} {bs : List UInt8}

def slice (buffer : Array UInt8) (start size : Nat) : List UInt8 :=
  (buffer.toList.drop start).take size

theorem getElem?_overwrite (hfit : offset + bs.length ≤ buffer.size) (i : Nat) :
    (overwrite buffer offset bs)[i]? = if offset ≤ i ∧ i < offset + bs.length then bs[i - offset]? else buffer[i]? := by
  induction bs generalizing buffer offset with
  | nil => rw [overwrite, if_neg (by simp)]
  | cons b bs ih =>
    rw [List.length_cons] at hfit
    rw [overwrite, ih (by rw [Array.size_setIfInBounds]; omega), List.length_cons, Array.getElem?_setIfInBounds]
    by_cases hfirst : offset = i
    · rw [if_neg (by omega), if_pos hfirst, if_pos (by omega), if_pos (by omega), hfirst, Nat.sub_self,
        List.getElem?_cons_zero]
    · rw [if_neg hfirst]
      by_cases hrest : offset + 1 ≤ i ∧ i < offset + 1 + bs.length
      · have hstep : i - offset = i - (offset + 1) + 1 := by omega
        rw [if_pos hrest, if_pos (by omega), hstep, List.getElem?_cons_succ]
      · rw [if_neg hrest, if_neg (by omega)]

theorem slice_overwrite (hfit : offset + bs.length ≤ buffer.size) :
    slice (overwrite buffer offset bs) offset bs.length = bs := by
  refine List.ext_getElem? fun i => ?_
  rw [slice, List.getElem?_take]
  split
  · rw [List.getElem?_drop, Array.getElem?_toList, getElem?_overwrite hfit, if_pos (by omega), Nat.add_sub_cancel_left]
  · rw [List.getElem?_eq_none (by omega)]

theorem slice_overwrite_of_disjoint (hfit : offset + bs.length ≤ buffer.size)
    (hapart : start + size ≤ offset ∨ offset + bs.length ≤ start) :
    slice (overwrite buffer offset bs) start size = slice buffer start size := by
  refine List.ext_getElem? fun i => ?_
  rw [slice, slice, List.getElem?_take, List.getElem?_take]
  split
  · rw [List.getElem?_drop, List.getElem?_drop, Array.getElem?_toList, Array.getElem?_toList, getElem?_overwrite hfit,
      if_neg (by omega)]
  · rfl

end PointRecord

end AirspaceRaster
