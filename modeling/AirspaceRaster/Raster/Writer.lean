import AirspaceRaster.Raster.Folder
import AirspaceRaster.Raster.Grid

/-! Writing tiles. A tile that has a file is left alone unless it is to be computed again. A small sample
    of the tile is taken first: if it is blank, so the tile is taken to be. A blank tile has no file,
    and one that is left from an earlier run goes. -/

namespace AirspaceRaster

/-- What became of a tile. -/
inductive TileOutcome where
  /-- The raster was written to the file of this name. -/
  | saved (file : String)
  /-- The file of this name was there already. -/
  | skipped (file : String)
  /-- There is no airspace near the tile, and no file. -/
  | empty
  deriving DecidableEq, Repr

/-- A raster with the settings for writing it. -/
structure TileWriter {R : Type} (table : AirspaceTable R) extends Raster table where
  grid : GridConfig

namespace TileWriter
variable {R : Type} [Scalar R] {table : AirspaceTable R}

def compute (w : TileWriter table) (interrupts : Interrupts) (tile : Tile) :
    Except (TileFailure R) (Array UInt8) :=
  w.sweep interrupts tile w.grid.resolution

/-- Whether the sample of a tile is blank; no sample never is. -/
def sampleIsEmpty (w : TileWriter table) (interrupts : Interrupts) (tile : Tile) :
    Except (TileFailure R) Bool :=
  if w.grid.sampleResolution = 0 then .ok false
  else (w.sweep interrupts tile w.grid.sampleResolution).map Raster.isBlank

/-- The raster of a tile, or none if it is blank. -/
def computeUnlessEmpty (w : TileWriter table) (interrupts : Interrupts) (tile : Tile) :
    Except (TileFailure R) (Option (Array UInt8)) := do
  if ← w.sampleIsEmpty interrupts tile then return none
  let buffer ← w.compute (fun row => interrupts (w.grid.sampleResolution + row)) tile
  return if Raster.isBlank buffer then none else some buffer

/-- The folder without the file of a blank tile. -/
def finishEmpty (tile : Tile) (folder : Folder) : Except (TileFailure R) Folder :=
  if folder.hasEntry tile.fileName then
    (folder.removeFile tile.fileName).mapError fun e => .folder e.reason
  else .ok folder

/-- The folder with the raster of a tile. -/
def persist (tile : Tile) (buffer : Array UInt8) (folder : Folder) :
    Except (TileFailure R) Folder :=
  (folder.writeFile tile.fileName buffer).mapError fun e => .folder e.reason

/-- Whether a tile is left alone because it has a file. -/
def isSkipped (w : TileWriter table) (tile : Tile) (folder : Folder) : Bool :=
  folder.hasEntry tile.fileName && !w.grid.force

/-- Computes a tile and changes the folder accordingly; a failure leaves the folder as it is. -/
def writeTile (w : TileWriter table) (interrupts : Interrupts) (tile : Tile) (folder : Folder) :
    Except (TileFailure R) TileOutcome × Folder :=
  if w.isSkipped tile folder then (.ok (.skipped tile.fileName), folder)
  else
    match w.computeUnlessEmpty interrupts tile with
    | .error e => (.error e, folder)
    | .ok none =>
      match finishEmpty tile folder with
      | .error e => (.error e, folder)
      | .ok folder => (.ok .empty, folder)
    | .ok (some buffer) =>
      match persist tile buffer folder with
      | .error e => (.error e, folder)
      | .ok folder => (.ok (.saved tile.fileName), folder)

/-- The results of some tiles, written one after the other. A tile that fails does not stop the
    others. -/
def writeTiles (w : TileWriter table) (interrupts : Tile → Interrupts) :
    List Tile → Folder → List (Tile × Except (TileFailure R) TileOutcome) × Folder
  | [], folder => ([], folder)
  | tile :: rest, folder =>
    let (result, folder) := w.writeTile (interrupts tile) tile folder
    let (results, folder) := w.writeTiles interrupts rest folder
    ((tile, result) :: results, folder)

def failures (results : List (Tile × Except (TileFailure R) TileOutcome)) : Nat :=
  results.countP fun r => !r.2.isOk

end TileWriter

end AirspaceRaster
