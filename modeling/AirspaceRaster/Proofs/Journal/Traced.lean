import AirspaceRaster.Journal.Traced
import AirspaceRaster.Proofs.Raster.RecordLayout
import AirspaceRaster.Proofs.Raster.Room

/-! What is shown of a point is what the raster holds for it. The events of a traced compaction never change its
    result, so the traced record is the record that a sweep puts into the cell of the point, and the lines are
    those of the cell. There is one for every level, unless the levels are so many that their bytes cannot be
    counted. -/

namespace AirspaceRaster

/-! ### Lines of a record -/

namespace Record

theorem length_descriptors (record : List UInt8) : (descriptors record).length = record.length / levelSize := by
  fun_induction descriptors record with
  | case1 f c b d rest ih =>
    simp only [List.length_cons, ih, levelSize]
    omega
  | case2 record hshort =>
    obtain _ | ⟨f, _ | ⟨c, _ | ⟨b, _ | ⟨d, rest⟩⟩⟩⟩ := record
    iterate 4 · simp [levelSize]
    · exact absurd rfl (hshort f c b d rest)

theorem length_describe (config : LevelConfig Float) (record : List UInt8) :
    (describe config record).length = record.length / levelSize := by
  rw [describe, List.length_mapIdx, decode, List.length_map, length_descriptors]

end Record

/-! ### The cells of a raster -/

/-- The lines of the bytes in the cell of grid point `(x, y)`. -/
def TileWriter.cellLines {table : AirspaceTable Float} (w : TileWriter table) (buffer : Array UInt8) (x y : Nat) :
    List String :=
  Record.describe w.config (PointRecord.slice buffer
    (Tile.cellOffset x y w.grid.resolution w.config.recordSize) w.config.recordSize)

namespace Traced
open Tile (cellOffset)

theorem compact_snd {R : Type} [Scalar R] {table : AirspaceTable R} (config : LevelConfig R) (point : Point R)
    (b : HeightBands table) : (compact config point b).2 = b.compact config point :=
  rfl

theorem encode_snd {R : Type} [Scalar R] {table : AirspaceTable R} (config : LevelConfig R) (point : Point R)
    (vs : List (AirspaceVector table)) : (encode config point vs).2 = PointRecord.encode config point vs := by
  simp only [encode, compact_snd]
  rfl

variable {table : AirspaceTable Float}

theorem check_snd (r : Raster table) (p : Point Float) :
    (check r p).2 = (PointRecord.encode r.config p (r.near p)).map (Record.describe r.config) := by
  simp only [check, encode_snd]

/-- The traced record of a point is its record, or fails with it. For every grid point of a raster the lines that
    are shown are those of its cell, and there are as many as the levels exactly if the bytes of these can be
    counted. -/
theorem check_eq_cellLines :
    (∀ config point (vs : List (AirspaceVector table)),
      (encode config point vs).2 = PointRecord.encode config point vs) ∧
    ∀ (w : TileWriter table) interrupts tile buffer, w.compute interrupts tile = .ok buffer →
      ∀ x < w.grid.resolution, ∀ y < w.grid.resolution,
        (check w.toRaster (tile.gridPoint x y w.grid.resolution)).2 = .ok (w.cellLines buffer x y) ∧
        cellOffset x y w.grid.resolution w.config.recordSize + w.config.recordSize ≤ buffer.size ∧
        (w.cellLines buffer x y).length = w.config.slots ∧
        ((w.cellLines buffer x y).length = w.config.levels ↔ w.config.levels * levelSize < Word.limit) := by
  refine ⟨encode_snd, fun w interrupts tile buffer h x hx y hy => ?_⟩
  obtain ⟨hcount, hfilled⟩ := Raster.filledTo_of_sweep_eq_ok h
  have hrecord := hfilled.recordAt_eq hx hy
  have hlines : (w.cellLines buffer x y).length = w.config.slots := by
    rw [TileWriter.cellLines, Record.length_describe, PointRecord.length_of_encode hrecord, LevelConfig.slots]
  refine ⟨?_, ?_, hlines, ?_⟩
  · rw [Raster.recordAt] at hrecord
    rw [check_snd, hrecord]
    rfl
  · rw [hfilled.size]
    exact Tile.cellOffset_add_le hcount hx hy
  · rw [hlines]
    exact LevelConfig.slots_eq_levels_iff

theorem check_eq_cellLines_seenInSouthEast :
    TileWriter.seenInSouthEast.compute .never ⟨48, 9⟩ =
      .ok #[0, 0, 0, 0, 0, 0, 0, 0, 0, 0, 0, 0, 0, 4, 158, 0] ∧
    (check TileWriter.seenInSouthEast.toRaster (Tile.gridPoint ⟨48, 9⟩ 1 0 2)).2 =
      .ok ["level 0 floor=0 MSL ceil=1000 MSL angle=90 distance=0 INSIDE!"] := by
  have hfilled : TileWriter.seenInSouthEast.compute .never ⟨48, 9⟩ =
      .ok #[0, 0, 0, 0, 0, 0, 0, 0, 0, 0, 0, 0, 0, 4, 158, 0] := TileWriter.eq_ok_of_toOption (by decide +kernel)
  have hlines := (check_eq_cellLines.2 TileWriter.seenInSouthEast .never ⟨48, 9⟩ _ hfilled
    1 (by decide) 0 (by decide)).1
  exact ⟨hfilled, hlines.trans (congrArg Except.ok (by decide +kernel))⟩

/-- A raster of one point that sees two airspaces, with so many levels that their bytes go round. -/
def overflowing : TileWriter (.ofBands [(0, 2000), (2000, 5000)] : AirspaceTable Float) where
  near _ := PointRecord.lowerAndUpper
  config := { LevelConfig.standard with levels := 4611686018427387905 }
  grid := { resolution := 1 }

/-- Its only cell has room for the lower airspace, and so there is a single line. -/
theorem check_overflowing :
    overflowing.compute .never ⟨48, 9⟩ = .ok #[0, 8, 30, 8] ∧
    (check overflowing.toRaster (Tile.gridPoint ⟨48, 9⟩ 0 0 1)).2 =
      .ok ["level 0 floor=0 MSL ceil=2000 MSL angle=90 distance=512"] ∧
    ["level 0 floor=0 MSL ceil=2000 MSL angle=90 distance=512"].length ≠ overflowing.config.levels := by
  refine ⟨TileWriter.eq_ok_of_toOption (by decide +kernel), ?_, by decide⟩
  rw [check_snd]
  exact TileWriter.eq_ok_of_toOption (by decide +kernel)

end Traced

end AirspaceRaster
