import AirspaceRaster.Proofs.Raster.Filling

/-! Room for every record of a raster. A sweep that comes to its end has found room for the record of every grid
    point. If the bytes of the raster could not be counted some record would reach beyond the last number there is,
    so they can be, and then every record is in its cell. -/

namespace AirspaceRaster

theorem PointRecord.size_of_encodeAt {R : Type} [Scalar R] {table : AirspaceTable R} {config : LevelConfig R}
    {point : Point R} {vs : List (AirspaceVector table)} {buffer written : Array UInt8} {offset : Nat}
    (h : encodeAt config point vs buffer offset = .ok written) :
    offset + config.recordSize ≤ buffer.size ∧ written.size = buffer.size := by
  rw [encodeAt] at h
  split at h
  · cases h
  · split at h
    · rename_i hfit
      cases h
      exact ⟨hfit, size_overwrite ..⟩
    · cases h

namespace Raster
open Tile (cellOffset place)

variable {R : Type} {table : AirspaceTable R} {r : Raster table} {interrupts : Interrupts} {tile : Tile}
  {n x y : Nat} {buffer written : Array UInt8}

/-- If there is room for every record the bytes of the raster can be counted. -/
theorem lt_limit_of_hasRoom (h : ∀ x < n, ∀ y < n, r.hasRoom n y x = true) :
    n * n * r.config.recordSize < Word.limit := by
  by_contra! hover
  obtain ⟨size, hsize⟩ : ∃ size, size = r.config.recordSize := ⟨_, rfl⟩
  rw [← hsize] at hover
  have hlimit : 0 < Word.limit := by decide
  have hpos : 0 < size := Nat.pos_of_ne_zero fun h0 => by
    rw [h0, Nat.mul_zero] at hover
    omega
  -- The last cell that begins at a number of 64 bits ends beyond all of them.
  obtain ⟨k, hk⟩ : ∃ k, k = (Word.limit - 1) / size := ⟨_, rfl⟩
  have hbegin : k * size < Word.limit := by
    have := Nat.div_mul_le_self (Word.limit - 1) size
    rw [← hk] at this
    omega
  have hend : Word.limit ≤ k * size + size := by
    have := Nat.lt_div_mul_add hpos (a := Word.limit - 1)
    rw [← hk] at this
    omega
  have hcell : k < n * n := Nat.lt_of_mul_lt_mul_right (lt_of_lt_of_le hbegin hover)
  obtain ⟨x, hx, y, hy, hplace⟩ := Tile.exists_place hcell
  have hoffset : cellOffset x y n size = k * size := by
    rw [← hplace, place] at hbegin ⊢
    exact Tile.cellOffset_eq hy hbegin
  have hroom := of_decide_eq_true (h x hx y hy)
  rw [← hsize, hoffset] at hroom
  have hcount : r.size n < Word.limit := Nat.mod_lt _ hlimit
  omega

variable [Scalar R]

theorem size_of_writeCell (h : r.writeCell tile n y buffer x = .ok written) :
    cellOffset x y n r.config.recordSize + r.config.recordSize ≤ buffer.size ∧ written.size = buffer.size :=
  PointRecord.size_of_encodeAt (TileWriter.mapError_eq_ok_iff.mp h)

theorem size_of_writeRow (h : r.writeRow interrupts tile n buffer y = .ok written) :
    (∀ x < n, cellOffset x y n r.config.recordSize + r.config.recordSize ≤ buffer.size) ∧
      written.size = buffer.size := by
  rw [writeRow] at h
  split at h
  · cases h
  · obtain ⟨hsize, hcells⟩ := steps_of_through_eq_ok (P := fun c => c.size = buffer.size)
      (fun c x d hc hcell => (size_of_writeCell hcell).2.trans hc) rfl h
    refine ⟨fun x hx => ?_, hsize⟩
    obtain ⟨c, d, hc, hcell⟩ := hcells x (Nat.zero_le x) (by omega)
    rw [← hc]
    exact (size_of_writeCell hcell).1

theorem hasRoom_of_sweep (h : r.sweep interrupts tile n = .ok buffer) (hx : x < n) (hy : y < n) :
    r.hasRoom n y x = true := by
  rw [sweep] at h
  split at h
  · obtain ⟨-, hrows⟩ := steps_of_through_eq_ok (P := fun c => c.size = r.size n)
      (fun c y d hc hrow => (size_of_writeRow hrow).2.trans hc) Array.size_replicate h
    obtain ⟨c, d, hc, hrow⟩ := hrows y (Nat.zero_le y) (by omega)
    have hroom := (size_of_writeRow hrow).1 x hx
    rw [hc] at hroom
    exact decide_eq_true hroom
  · cases h

/-- A sweep that comes to its end has put every record into its cell. -/
theorem filledTo_of_sweep_eq_ok (h : r.sweep interrupts tile n = .ok buffer) :
    n * n * r.config.recordSize < Word.limit ∧ r.FilledTo tile n 0 n buffer := by
  have hcount : n * n * r.config.recordSize < Word.limit :=
    lt_limit_of_hasRoom fun x hx y hy => hasRoom_of_sweep h hx hy
  exact ⟨hcount, (filledTo_of_sweep hcount (sweep_never h)).2⟩

end Raster

end AirspaceRaster
