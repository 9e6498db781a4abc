import AirspaceRaster.Band.Compaction
import AirspaceRaster.Band.Sweep
import AirspaceRaster.Level.Record

/-! The record of a point: the bands above it, reduced to the budget of levels and written one after
    the other from the lowest to the highest, as far as there is room, with padding behind them. A
    record has the same size everywhere, so it can be written into a larger buffer at any offset where
    it fits. -/

namespace AirspaceRaster

/-- One more than the bytes of the largest buffer. -/
def bufferLimit : Nat := 9223372036854775808

/-- Why a record could not be written into a buffer. -/
inductive EncodeFailure (R : Type) where
  | budget (e : BudgetExceeded R)
  /-- The record would reach beyond the end of the buffer, or no buffer can be large enough. -/
  | doesNotFit
  deriving Repr

/-- Whether a failure is due to the settings and not to the airspaces. It ends everything that is being
    done with them. -/
def EncodeFailure.isFatal {R : Type} : EncodeFailure R → Bool
  | budget _ => false
  | doesNotFit => true

namespace PointRecord
variable {R : Type} [Scalar R] {table : AirspaceTable R}

/-- The bands of a point that its record has levels for. -/
def levels (config : LevelConfig R) (point : Point R) (vs : List (AirspaceVector table)) :
    Except (BudgetExceeded R) (HeightBands table) :=
  (Sweep.resolve vs).compact config point

/-- The levels of some bands that a record has room for, with padding behind them. -/
def descriptors (config : LevelConfig R) (b : HeightBands table) : List LevelDescriptor :=
  (b.vectors.take config.slots).map (LevelDescriptor.encode config) ++
    List.replicate (config.slots - b.size) LevelDescriptor.padding

/-- The bytes of some bands. -/
def ofBands (config : LevelConfig R) (b : HeightBands table) : List UInt8 :=
  Record.ofDescriptors (descriptors config b)

theorem length_ofBands (config : LevelConfig R) (b : HeightBands table) :
    (ofBands config b).length = config.recordSize := by
  rw [ofBands, Record.length_ofDescriptors, ← LevelConfig.slots_mul_levelSize]
  congr 1
  simp only [descriptors, HeightBands.vectors, HeightBands.size, List.length_append,
    List.length_map, List.length_take, List.length_replicate]
  omega

/-- The record of the bands that were worked out, in a buffer of its own. -/
def pack (config : LevelConfig R) :
    Except (BudgetExceeded R) (HeightBands table) → Except (EncodeFailure R) (List UInt8)
  | .error e => .error (.budget e)
  | .ok bands =>
    if config.recordSize < bufferLimit then .ok (ofBands config bands) else .error .doesNotFit

/-- The record of a point. -/
def encode (config : LevelConfig R) (point : Point R) (vs : List (AirspaceVector table)) :
    Except (EncodeFailure R) (List UInt8) :=
  pack config (levels config point vs)

/-- A buffer with some bytes in place of the ones from an offset on; bytes beyond its end are lost. -/
def overwrite (buffer : Array UInt8) (offset : Nat) : List UInt8 → Array UInt8
  | [] => buffer
  | b :: bs => overwrite (buffer.setIfInBounds offset b) (offset + 1) bs

theorem size_overwrite (buffer : Array UInt8) (offset : Nat) (bs : List UInt8) :
    (overwrite buffer offset bs).size = buffer.size := by
  induction bs generalizing buffer offset with
  | nil => rfl
  | cons b bs ih => rw [overwrite, ih, Array.size_setIfInBounds]

/-- A buffer with the record of a point at an offset. The bands are worked out first, so a point with
    too many of them is reported even where the record would not fit. -/
def encodeAt (config : LevelConfig R) (point : Point R) (vs : List (AirspaceVector table))
    (buffer : Array UInt8) (offset : Nat) : Except (EncodeFailure R) (Array UInt8) :=
  match levels config point vs with
  | .error e => .error (.budget e)
  | .ok bands =>
    if offset + config.recordSize ≤ buffer.size then
      .ok (overwrite buffer offset (ofBands config bands))
    else .error .doesNotFit

end PointRecord

end AirspaceRaster
