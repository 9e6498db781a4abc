import AirspaceRaster.Number.Binary64
import AirspaceRaster.Proofs.Raster.Budget
import AirspaceRaster.Proofs.Raster.Layout
import AirspaceRaster.Proofs.Raster.WriteTile

/-! How a sweep fills the raster of a tile. It visits the grid points row by row. In front of every point the
    records of all points before it are in their cells, and what is written later does not touch them. So the
    raster holds the record of every grid point, or the sweep fails at the first point that has none. -/

namespace AirspaceRaster

/-! ### One record -/

namespace PointRecord

variable {R : Type} [Scalar R] {table : AirspaceTable R} {config : LevelConfig R} {point : Point R}
  {vs : List (AirspaceVector table)} {buffer : Array UInt8} {offset : Nat} {bs : List UInt8}

theorem length_of_encode (h : encode config point vs = .ok bs) : bs.length = config.recordSize := by
  rw [encode] at h
  cases hlevels : levels config point vs with
  | error e =>
    rw [hlevels] at h
    cases h
  | ok bands =>
    rw [hlevels, pack] at h
    split at h
    · cases h
      exact length_ofBands config bands
    · cases h

theorem encodeAt_eq_map (hsize : config.recordSize < bufferLimit)
    (hfit : offset + config.recordSize ≤ buffer.size) :
    encodeAt config point vs buffer offset = (encode config point vs).map (overwrite buffer offset) := by
  rw [encodeAt, encode]
  cases levels config point vs with
  | error e => rfl
  | ok bands =>
    simp only [pack, if_pos hsize, if_pos hfit]
    rfl

theorem encodeAt_ne_doesNotFit (hfit : offset + config.recordSize ≤ buffer.size) :
    encodeAt config point vs buffer offset ≠ .error .doesNotFit := fun h => by
  rw [encodeAt] at h
  split at h
  · cases h
  · rw [if_pos hfit] at h
    cases h

end PointRecord

/-! ### The points in front -/

namespace Raster
open PointRecord (slice overwrite)
open Tile (cellOffset)

variable {R : Type} [Scalar R] {table : AirspaceTable R} {r : Raster table} {tile : Tile} {n x y x' y' : Nat}
  {buffer : Array UInt8} {f f' : EncodeFailure R}

def Precedes (x' y' x y : Nat) : Prop :=
  y' < y ∨ y' = y ∧ x' < x

theorem precedes_trichotomy (x y x' y' : Nat) : Precedes x' y' x y ∨ (x' = x ∧ y' = y) ∨ Precedes x y x' y' := by
  simp only [Precedes]
  omega

def recordAt (r : Raster table) (tile : Tile) (n x y : Nat) : Except (EncodeFailure R) (List UInt8) :=
  PointRecord.encode r.config (tile.gridPoint x y n) (r.near (tile.gridPoint x y n))

/-- The raster while a sweep is at grid point `(x, y)`: all points in front have their records in it. -/
structure FilledTo (r : Raster table) (tile : Tile) (n x y : Nat) (buffer : Array UInt8) : Prop where
  size : buffer.size = n * n * r.config.recordSize
  records : ∀ x' < n, ∀ y' < n, Precedes x' y' x y →
    r.recordAt tile n x' y' = .ok (slice buffer (cellOffset x' y' n r.config.recordSize) r.config.recordSize)

/-- Grid point `(x, y)` is the first one without a record. -/
structure FirstFailure (r : Raster table) (tile : Tile) (n x y : Nat) (f : EncodeFailure R) : Prop where
  fails : r.recordAt tile n x y = .error f
  before : ∀ x' < n, ∀ y' < n, Precedes x' y' x y → ∃ bs, r.recordAt tile n x' y' = .ok bs

/-- A sweep fails with what is wrong at the first grid point without a record. -/
def FailsFirst (r : Raster table) (tile : Tile) (n : Nat) (e : TileFailure R) : Prop :=
  ∃ x < n, ∃ y < n, ∃ f, e = .encoding f ∧ r.FirstFailure tile n x y f

theorem FirstFailure.unique (hx : x < n) (hy : y < n) (hx' : x' < n) (hy' : y' < n)
    (h : r.FirstFailure tile n x y f) (h' : r.FirstFailure tile n x' y' f') : f = f' := by
  rcases precedes_trichotomy x y x' y' with hlt | ⟨rfl, rfl⟩ | hlt
  · obtain ⟨bs, hbs⟩ := h.before x' hx' y' hy' hlt
    rw [h'.fails] at hbs
    cases hbs
  · have hfails := h.fails.symm.trans h'.fails
    cases hfails
    rfl
  · obtain ⟨bs, hbs⟩ := h'.before x hx y hy hlt
    rw [h.fails] at hbs
    cases hbs

/-! ### Writing one record after the other -/

theorem lt_limit_of_lt_bufferLimit {k : Nat} (h : k < bufferLimit) : k < Word.limit :=
  lt_trans h (by decide)

theorem FilledTo.nextRow (h : r.FilledTo tile n n y buffer) : r.FilledTo tile n 0 (y + 1) buffer where
  size := h.size
  records x' hx' y' hy' hlt := by
    refine h.records x' hx' y' hy' ?_
    simp only [Precedes] at hlt ⊢
    omega

theorem FilledTo.firstFailure (h : r.FilledTo tile n x y buffer) (hf : r.recordAt tile n x y = .error f) :
    r.FirstFailure tile n x y f where
  fails := hf
  before x' hx' y' hy' hlt := ⟨_, h.records x' hx' y' hy' hlt⟩

section Room
variable (hroom : n * n * r.config.recordSize < bufferLimit)
include hroom

/-- The record of the next grid point joins the ones that are there, as its cell is apart from theirs. -/
theorem FilledTo.overwrite (h : r.FilledTo tile n x y buffer) (hx : x < n) (hy : y < n) {bs : List UInt8}
    (hbs : r.recordAt tile n x y = .ok bs) :
    r.FilledTo tile n (x + 1) y (PointRecord.overwrite buffer (cellOffset x y n r.config.recordSize) bs) := by
  have hcount := lt_limit_of_lt_bufferLimit hroom
  have hlength : bs.length = r.config.recordSize := PointRecord.length_of_encode hbs
  have hfit : cellOffset x y n r.config.recordSize + bs.length ≤ buffer.size := by
    rw [hlength, h.size]
    exact Tile.cellOffset_add_le hcount hx hy
  refine ⟨by rw [PointRecord.size_overwrite, h.size], fun x' hx' y' hy' hlt => ?_⟩
  by_cases hsame : (x, y) = (x', y')
  · cases hsame
    have hread := PointRecord.slice_overwrite hfit
    rw [hlength] at hread
    rw [hbs, hread]
  · have hbefore : Precedes x' y' x y := by
      simp only [Precedes, Prod.mk.injEq] at hlt hsame ⊢
      omega
    have hapart := (Tile.cellOffset_add_le_or hcount hx hy hx' hy' hsame).symm
    rw [h.records x' hx' y' hy' hbefore, PointRecord.slice_overwrite_of_disjoint hfit (by rwa [hlength])]

/-- At a grid point its record is written, or the sweep ends there as the first one without a record. -/
theorem writeCell_cases (h : r.FilledTo tile n x y buffer) (hx : x < n) (hy : y < n) :
    (∃ written, r.writeCell tile n y buffer x = .ok written ∧ r.FilledTo tile n (x + 1) y written) ∨
      ∃ e, r.writeCell tile n y buffer x = .error e ∧ ∃ f, e = .encoding f ∧ r.FirstFailure tile n x y f := by
  have hfit : cellOffset x y n r.config.recordSize + r.config.recordSize ≤ buffer.size := by
    rw [h.size]
    exact Tile.cellOffset_add_le (lt_limit_of_lt_bufferLimit hroom) hx hy
  have hsize : r.config.recordSize < bufferLimit :=
    lt_of_le_of_lt (Nat.le_mul_of_pos_left _ (Nat.mul_pos (by omega) (by omega))) hroom
  have hcell : r.writeCell tile n y buffer x = ((r.recordAt tile n x y).map
      (PointRecord.overwrite buffer (cellOffset x y n r.config.recordSize))).mapError .encoding := by
    rw [writeCell, PointRecord.encodeAt_eq_map hsize hfit, recordAt]
  rw [hcell]
  cases hrecord : r.recordAt tile n x y with
  | ok bs => exact Or.inl ⟨_, rfl, h.overwrite hroom hx hy hrecord⟩
  | error f => exact Or.inr ⟨_, rfl, f, rfl, h.firstFailure hrecord⟩

theorem writeRow_cases (h : r.FilledTo tile n 0 y buffer) (hy : y < n) :
    (∃ written, r.writeRow .never tile n buffer y = .ok written ∧ r.FilledTo tile n 0 (y + 1) written) ∨
      ∃ e, r.writeRow .never tile n buffer y = .error e ∧ r.FailsFirst tile n e := by
  rw [writeRow, if_neg (by simp [Interrupts.never])]
  -- The invariant of a row goes from column to column, the one of the sweep from row to row.
  refine (through_cases (P := fun x buffer => r.FilledTo tile n x y buffer) (F := r.FailsFirst tile n)
    (fun x buffer _ hx hfilled => ?_) h).imp_left ?_
  · have hx : x < n := by omega
    rcases writeCell_cases hroom hfilled hx hy with hok | ⟨e, he, hf⟩
    · exact Or.inl hok
    · exact Or.inr ⟨e, he, x, hx, y, hy, hf⟩
  · rintro ⟨written, hwritten, hfilled⟩
    rw [Nat.zero_add] at hfilled
    exact ⟨written, hwritten, hfilled.nextRow⟩

end Room

/-- A sweep fills the whole raster or fails at the first grid point without a record. -/
theorem sweep_cases (r : Raster table) (tile : Tile) (hroom : n * n * r.config.recordSize < bufferLimit) :
    (∃ buffer, r.sweep .never tile n = .ok buffer ∧ r.FilledTo tile n 0 n buffer) ∨
      ∃ e, r.sweep .never tile n = .error e ∧ r.FailsFirst tile n e := by
  have hsize : r.size n = n * n * r.config.recordSize := Nat.mod_eq_of_lt (lt_limit_of_lt_bufferLimit hroom)
  have hstart : r.FilledTo tile n 0 0 (Array.replicate (r.size n) 0) := by
    refine ⟨by rw [Array.size_replicate, hsize], fun x' _ y' _ hlt => ?_⟩
    simp only [Precedes] at hlt
    omega
  rw [sweep, if_pos (by rwa [hsize])]
  refine (through_cases (P := fun y buffer => r.FilledTo tile n 0 y buffer) (F := r.FailsFirst tile n)
    (fun y buffer _ hy hfilled => writeRow_cases hroom hfilled (by omega)) hstart).imp_left ?_
  rintro ⟨buffer, hbuffer, hfilled⟩
  rw [Nat.zero_add] at hfilled
  exact ⟨buffer, hbuffer, hfilled⟩

/-! ### Whole sweeps -/

theorem FilledTo.recordAt_eq (h : r.FilledTo tile n 0 n buffer) (hx : x < n) (hy : y < n) :
    r.recordAt tile n x y =
      .ok (slice buffer (cellOffset x y n r.config.recordSize) r.config.recordSize) :=
  h.records x hx y hy (Or.inl hy)

theorem sweep_of_bufferLimit_le (hcount : n * n * r.config.recordSize < Word.limit)
    (h : bufferLimit ≤ n * n * r.config.recordSize) : r.sweep .never tile n = .error (.encoding .doesNotFit) := by
  have hsize : r.size n = n * n * r.config.recordSize := Nat.mod_eq_of_lt hcount
  rw [sweep, if_neg (by rw [hsize]; exact not_lt_of_ge h)]

theorem filledTo_of_sweep (hcount : n * n * r.config.recordSize < Word.limit)
    (h : r.sweep .never tile n = .ok buffer) :
    n * n * r.config.recordSize < bufferLimit ∧ r.FilledTo tile n 0 n buffer := by
  rcases lt_or_ge (n * n * r.config.recordSize) bufferLimit with hroom | hroom
  · rcases sweep_cases r tile hroom with ⟨filled, hfilled, hrecords⟩ | ⟨e, he, -⟩
    · rw [h] at hfilled
      cases hfilled
      exact ⟨hroom, hrecords⟩
    · rw [h] at he
      cases he
  · rw [sweep_of_bufferLimit_le hcount hroom] at h
    cases h

theorem exists_sweep_eq_ok_iff (hcount : n * n * r.config.recordSize < Word.limit) :
    (∃ buffer, r.sweep .never tile n = .ok buffer) ↔
      n * n * r.config.recordSize < bufferLimit ∧
        ∀ x < n, ∀ y < n, ∃ bs, r.recordAt tile n x y = .ok bs := by
  constructor
  · rintro ⟨buffer, h⟩
    obtain ⟨hroom, hfilled⟩ := filledTo_of_sweep hcount h
    exact ⟨hroom, fun x hx y hy => ⟨_, hfilled.recordAt_eq hx hy⟩⟩
  · rintro ⟨hroom, hall⟩
    rcases sweep_cases r tile hroom with ⟨buffer, h, -⟩ | ⟨e, -, x, hx, y, hy, f, -, hf⟩
    · exact ⟨buffer, h⟩
    · obtain ⟨bs, hbs⟩ := hall x hx y hy
      rw [hf.fails] at hbs
      cases hbs

theorem sweep_eq_error_iff (hroom : n * n * r.config.recordSize < bufferLimit) {e : TileFailure R} :
    r.sweep .never tile n = .error e ↔ r.FailsFirst tile n e := by
  rcases sweep_cases r tile hroom with ⟨buffer, h, hfilled⟩ | ⟨e', h, hfails⟩
  · rw [h]
    constructor
    · intro he
      cases he
    · rintro ⟨x, hx, y, hy, f, -, hf⟩
      have hrecord := hfilled.recordAt_eq hx hy
      rw [hf.fails] at hrecord
      cases hrecord
  · rw [h]
    constructor
    · intro he
      cases he
      exact hfails
    · rintro ⟨x, hx, y, hy, f, rfl, hf⟩
      obtain ⟨x', hx', y', hy', f', rfl, hf'⟩ := hfails
      rw [hf'.unique hx' hy' hx hy hf]

end Raster

/-! ### The raster of a tile -/

namespace TileWriter
open PointRecord (slice)
open Tile (cellOffset)

variable {R : Type} [Scalar R] {table : AirspaceTable R}

/-- If the bytes of its raster can be counted, a tile gets one just if a buffer can have as many and every grid
    point has a record. Then the record of each grid point is in its own cell, and else the failure is the one of
    the first grid point without a record. No record is ever written beyond the end. -/
theorem compute_records (w : TileWriter table) (tile : Tile)
    (hcount : w.grid.resolution * w.grid.resolution * w.config.recordSize < Word.limit) :
    ((∃ buffer, w.compute .never tile = .ok buffer) ↔
      w.grid.resolution * w.grid.resolution * w.config.recordSize < bufferLimit ∧
        ∀ x < w.grid.resolution, ∀ y < w.grid.resolution,
          ∃ bs, w.recordAt tile w.grid.resolution x y = .ok bs) ∧
    (∀ buffer, w.compute .never tile = .ok buffer →
      buffer.size = w.grid.resolution * w.grid.resolution * w.config.recordSize ∧
      ∀ x < w.grid.resolution, ∀ y < w.grid.resolution, w.recordAt tile w.grid.resolution x y =
        .ok (slice buffer (cellOffset x y w.grid.resolution w.config.recordSize) w.config.recordSize)) ∧
    Tile.Layout w.grid.resolution w.config.recordSize ∧
    (w.grid.resolution * w.grid.resolution * w.config.recordSize < bufferLimit →
      ∀ e, w.compute .never tile = .error e ↔ w.FailsFirst tile w.grid.resolution e) ∧
    (bufferLimit ≤ w.grid.resolution * w.grid.resolution * w.config.recordSize →
      w.compute .never tile = .error (.encoding .doesNotFit)) ∧
    ∀ x < w.grid.resolution, ∀ y < w.grid.resolution, ∀ buffer : Array UInt8,
      buffer.size = w.grid.resolution * w.grid.resolution * w.config.recordSize →
        ∀ point (vs : List (AirspaceVector table)), PointRecord.encodeAt w.config point vs buffer
          (cellOffset x y w.grid.resolution w.config.recordSize) ≠ .error .doesNotFit := by
  refine ⟨Raster.exists_sweep_eq_ok_iff hcount, fun buffer h => ?_, Tile.layout hcount,
    fun hroom e => Raster.sweep_eq_error_iff hroom, Raster.sweep_of_bufferLimit_le hcount,
    fun x hx y hy buffer hsize point vs => ?_⟩
  · obtain ⟨-, hfilled⟩ := Raster.filledTo_of_sweep hcount h
    exact ⟨hfilled.size, fun x hx y hy => hfilled.recordAt_eq hx hy⟩
  · refine PointRecord.encodeAt_ne_doesNotFit ?_
    rw [hsize]
    exact Tile.cellOffset_add_le hcount hx hy

/-- A raster of two by two points with a single level, and how many of two airspaces each of them sees. -/
def fourPoints (seen : Point Float → Nat) : TileWriter (.ofBands [(0, 1000), (1000, 3000)] : AirspaceTable Float) where
  near p := [.measured ⟨0, by decide⟩ 0 90 true, .measured ⟨1, by decide⟩ 1000 90 true].take (seen p)
  config := { LevelConfig.standard with levels := 1 }
  grid := { resolution := 2 }

/-- One airspace around the south-eastern point. -/
def seenInSouthEast : TileWriter (.ofBands [(0, 1000), (1000, 3000)] : AirspaceTable Float) :=
  fourPoints fun p => if p.lat == 48 && p.lon == 9.5 then 1 else 0

/-- Two airspaces, which are too many for a single level, around all points but the first one. -/
def seenBeyondFirst : TileWriter (.ofBands [(0, 1000), (1000, 3000)] : AirspaceTable Float) :=
  fourPoints fun p => if p.lat == 48 && p.lon == 9 then 0 else 2

/-- The record of the south-eastern point comes last, and of three points without a record it is the
    south-eastern one that is reported. -/
theorem compute_records_fourPoints :
    seenInSouthEast.compute .never ⟨48, 9⟩ = .ok #[0, 0, 0, 0, 0, 0, 0, 0, 0, 0, 0, 0, 0, 4, 158, 0] ∧
    seenInSouthEast.recordAt ⟨48, 9⟩ 2 1 0 = .ok [0, 4, 158, 0] ∧
    seenBeyondFirst.compute .never ⟨48, 9⟩ = .error (.encoding (.budget ⟨Tile.gridPoint ⟨48, 9⟩ 1 0 2, 1⟩)) := by
  have hfilled : seenInSouthEast.compute .never ⟨48, 9⟩ =
      .ok #[0, 0, 0, 0, 0, 0, 0, 0, 0, 0, 0, 0, 0, 4, 158, 0] := eq_ok_of_toOption (by decide +kernel)
  have hread := ((compute_records seenInSouthEast ⟨48, 9⟩ (by decide)).2.1 _ hfilled).2
    1 (by decide) 0 (by decide)
  have hfails := (compute_records seenBeyondFirst ⟨48, 9⟩ (by decide)).2.2.2.1 (by decide)
  refine ⟨hfilled, hread.trans (congrArg Except.ok (by decide +kernel)),
    (hfails _).mpr ⟨1, by decide, 0, by decide, _, rfl, ?_, ?_⟩⟩
  · rw [Raster.recordAt, PointRecord.encode, PointRecord.levels_eq_error_iff_lt.mpr ⟨rfl, by decide +kernel⟩]
    rfl
  · rintro x' - y' - (hlt | ⟨rfl, hlt⟩)
    · cases hlt
    · obtain rfl : x' = 0 := by omega
      exact ⟨[0, 0, 0, 0], eq_ok_of_toOption (by decide +kernel)⟩

/-- A raster whose bytes can be counted, although no buffer can have as many. -/
def vast : TileWriter (.ofBands [] : AirspaceTable Float) where
  near _ := []
  config := { LevelConfig.standard with levels := 2 }
  grid := { resolution := 1073741824 }

theorem compute_vast_ne_ok :
    vast.grid.resolution * vast.grid.resolution * vast.config.recordSize < Word.limit ∧
    (∀ x < vast.grid.resolution, ∀ y < vast.grid.resolution,
      ∃ bs, vast.recordAt ⟨48, 9⟩ vast.grid.resolution x y = .ok bs) ∧
    ∀ buffer, vast.compute .never ⟨48, 9⟩ ≠ .ok buffer := by
  refine ⟨by decide, fun x _ y _ => ?_, fun buffer h => ?_⟩
  · have hempty : (((Sweep.resolve ([] : List (AirspaceVector (.ofBands [] : AirspaceTable Float)))).merged
        vast.config).shed vast.config.levels).2.size ≤ vast.config.levels := by decide +kernel
    exact ⟨_, congrArg (PointRecord.pack vast.config) (HeightBands.compact_eq_ok_iff.mpr ⟨rfl, hempty⟩)⟩
  · have hroom := (Raster.filledTo_of_sweep (by decide) h).1
    revert hroom
    decide

end TileWriter

end AirspaceRaster
