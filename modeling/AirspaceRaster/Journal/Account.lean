import AirspaceRaster.Journal.Event

/-! The account of what is done: for every activity the events that it gives rise to, in their order.
    An account looks at the same intermediate results as the activity itself and never changes them. -/

namespace AirspaceRaster.Account

variable {R : Type} [Scalar R] {table : AirspaceTable R}

/-- The bands that the sweep through the altitudes finds. -/
def resolve (vs : List (AirspaceVector table)) : List (Event table) :=
  (Sweep.resolve vs).toList.map fun (h, v) => .chosen h v

/-- The airspaces that are dropped for lack of levels. -/
def compact (config : LevelConfig R) (b : HeightBands table) : List (Event table) :=
  ((b.merged config).shed config.levels).1.map .dropped

/-- The record of one grid point, and whether it is written. -/
def cell (r : Raster table) (tile : Tile) (n y x : Nat) : List (Event table) × Bool :=
  let p := tile.gridPoint x y n
  let vs := r.near p
  let bands := Sweep.resolve vs
  (resolve vs ++ compact r.config bands, (bands.compact r.config p).isOk && r.hasRoom n y x)

/-- The records of some grid points of a row from `x` on, up to the first one that is not written, and
    whether all of them are. -/
def cells (r : Raster table) (tile : Tile) (n y : Nat) :
    (count x : Nat) → List (Event table) × Bool
  | 0, _ => ([], true)
  | count + 1, x =>
    match cell r tile n y x with
    | (events, false) => (events, false)
    | (events, true) =>
      let (more, complete) := cells r tile n y count (x + 1)
      (events ++ more, complete)

/-- Some rows of a sweep from `y` on, up to the first one that is interrupted or holds a point whose
    record is not written. -/
def rows (r : Raster table) (interrupts : Interrupts) (tile : Tile) (n : Nat) (progress : Bool) :
    (count y : Nat) → List (Event table)
  | 0, _ => []
  | count + 1, y =>
    if interrupts y then []
    else
      match cells r tile n y n 0 with
      | (events, false) => events
      | (events, true) =>
        events ++ (if progress then [.rowDone tile ((y + 1) * 100 / n)] else []) ++
          rows r interrupts tile n progress count (y + 1)

/-- The sweep through a tile, of which nothing is to be told if there is no room for the raster. -/
def sweep (r : Raster table) (interrupts : Interrupts) (tile : Tile) (n : Nat) (progress : Bool) :
    List (Event table) :=
  if r.size n < bufferLimit then rows r interrupts tile n progress n 0 else []

def compute (w : TileWriter table) (interrupts : Interrupts) (tile : Tile) : List (Event table) :=
  sweep w.toRaster interrupts tile w.grid.resolution true

def sample (w : TileWriter table) (interrupts : Interrupts) (tile : Tile) : List (Event table) :=
  sweep w.toRaster interrupts tile w.grid.sampleResolution false

/-- The sample of a tile and its raster, unless the sample is blank or fails. -/
def computeUnlessEmpty (w : TileWriter table) (interrupts : Interrupts) (tile : Tile) :
    List (Event table) :=
  sample w interrupts tile ++
    match w.sampleIsEmpty interrupts tile with
    | .ok false => compute w (fun row => interrupts (w.grid.sampleResolution + row)) tile
    | _ => []

def writeTile (w : TileWriter table) (interrupts : Interrupts) (tile : Tile) (folder : Folder) :
    List (Event table) :=
  if w.isSkipped tile folder then [.tileSkipped tile]
  else
    .tileStarted tile w.grid.resolution :: computeUnlessEmpty w interrupts tile ++
      match w.computeUnlessEmpty interrupts tile with
      | .error _ => []
      | .ok none =>
        .tileEmpty tile ::
          if folder.hasEntry tile.fileName && (folder.removeFile tile.fileName).isOk then
            [.tileRemoved tile]
          else []
      | .ok (some buffer) =>
        if (folder.writeFile tile.fileName buffer).isOk then [.tileSaved tile] else []

/-- The writing of some tiles one after the other. A fatal failure is told with the end of the run. -/
def tiles (w : TileWriter table) (interrupts : Tile → Interrupts) :
    List Tile → Folder → List (Event table)
  | [], _ => []
  | tile :: rest, folder =>
    let (result, after) := w.writeTile (interrupts tile) tile folder
    writeTile w (interrupts tile) tile folder ++
      (match result with
        | .ok _ => []
        | .error f => if f.isFatal then [] else [.tileFailed tile f]) ++
      tiles w interrupts rest after

/-- The start of a run over a number of tiles, on a machine with some processors. -/
def start (w : TileWriter table) (processors : Option Nat) (count : Nat) : Event table :=
  .batchStarted count (w.grid.workersOn processors)

def writeTiles (w : TileWriter table) (processors : Option Nat) (interrupts : Tile → Interrupts)
    (ts : List Tile) (folder : Folder) : List (Event table) :=
  start w processors ts.length :: tiles w interrupts ts folder

end AirspaceRaster.Account
