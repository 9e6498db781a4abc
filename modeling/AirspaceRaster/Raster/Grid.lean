import AirspaceRaster.Raster.PointRecord
import AirspaceRaster.Raster.Tile

/-! The raster of a tile: the records of all its grid points. The points are visited row by row from the
    south, each row from the west, and every record is written to its place in the buffer. Before each
    row the sweep may be interrupted. -/

namespace AirspaceRaster

/-- The settings of the raster and of a run. -/
structure GridConfig where
  /-- The grid points on each side of a tile. -/
  resolution : Nat := 300
  /-- The grid points on each side of the sample that tells an empty tile; zero takes no sample. -/
  sampleResolution : Nat := 10
  /-- Whether tiles that have a file are computed again. -/
  force : Bool := false
  /-- How many tiles are computed at once; if it is not set the machine decides. -/
  workers : Option Nat := none
  deriving DecidableEq, Repr

/-- At least one tile is computed at once. -/
def GridConfig.withWorkers (g : GridConfig) (workers : Nat) : GridConfig :=
  { g with workers := some (max workers 1) }

/-- How many tiles a machine computes at once by itself: two for each of its processors, or two if their
    number is not known. -/
def GridConfig.defaultWorkers (processors : Option Nat) : Nat :=
  (processors.map (2 * ·)).getD 2

/-- How many tiles are computed at once on a machine with some processors, at least one. -/
def GridConfig.workersOn (g : GridConfig) (processors : Option Nat) : Nat :=
  max (g.workers.getD (defaultWorkers processors)) 1

/-- For each row of the sweeps of one tile, counted from the first one on, whether it is interrupted
    there. -/
abbrev Interrupts := Nat → Bool

def Interrupts.never : Interrupts := fun _ => false

/-- Why a tile could not be computed or written. -/
inductive TileFailure (R : Type) where
  | encoding (e : EncodeFailure R)
  | interrupted (tile : Tile)
  | folder (reason : String)
  deriving Repr

/-- What the raster is computed from: the airspaces around every point, and how they are written. -/
structure Raster {R : Type} (table : AirspaceTable R) where
  /-- The airspaces around a point. -/
  near : Point R → List (AirspaceVector table)
  config : LevelConfig R

/-- Whether a failure is due to the settings. It ends more than the work on its own tile. -/
def TileFailure.isFatal {R : Type} : TileFailure R → Bool
  | encoding e => e.isFatal
  | _ => false

namespace Raster
variable {R : Type} [Scalar R] {table : AirspaceTable R}

/-- The outcome of a step for each of some numbers, which are counted from `first` on. The first step
    that fails is the last one. -/
def through {ε α : Type} (step : α → Nat → Except ε α) : (count first : Nat) → α → Except ε α
  | 0, _, a => .ok a
  | count + 1, first, a =>
    match step a first with
    | .error e => .error e
    | .ok b => through step count (first + 1) b

def writeCell (r : Raster table) (tile : Tile) (n y : Nat) (buffer : Array UInt8) (x : Nat) :
    Except (TileFailure R) (Array UInt8) :=
  let p := tile.gridPoint x y n
  (PointRecord.encodeAt r.config p (r.near p) buffer
    (Tile.cellOffset x y n r.config.recordSize)).mapError .encoding

/-- The buffer with the records of one row, unless the row is interrupted. -/
def writeRow (r : Raster table) (interrupts : Interrupts) (tile : Tile) (n : Nat)
    (buffer : Array UInt8) (y : Nat) : Except (TileFailure R) (Array UInt8) :=
  if interrupts y then .error (.interrupted tile)
  else through (r.writeCell tile n y) n 0 buffer

/-- The bytes of a raster with `n` by `n` points. -/
def size (r : Raster table) (n : Nat) : Nat :=
  n * n * r.config.recordSize % Word.limit

/-- Whether the record of a grid point has its place in the raster. It always has if the bytes of the
    raster can be counted. -/
def hasRoom (r : Raster table) (n y x : Nat) : Bool :=
  decide (Tile.cellOffset x y n r.config.recordSize + r.config.recordSize ≤ r.size n)

/-- The raster of a tile with `n` by `n` points. -/
def sweep (r : Raster table) (interrupts : Interrupts) (tile : Tile) (n : Nat) :
    Except (TileFailure R) (Array UInt8) :=
  if r.size n < bufferLimit then
    through (r.writeRow interrupts tile n) n 0 (Array.replicate (r.size n) 0)
  else .error (.encoding .doesNotFit)

/-- Whether a raster holds no level at all. -/
def isBlank (buffer : Array UInt8) : Bool :=
  buffer.all (· == 0)

end Raster

end AirspaceRaster
