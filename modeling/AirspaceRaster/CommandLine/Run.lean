import AirspaceRaster.Airspace.Index
import AirspaceRaster.CommandLine.Options
import AirspaceRaster.Journal.Traced
import AirspaceRaster.Raster.Batch
import AirspaceRaster.Text.Control

/-! A run from the options to its report. The document is read, and then either the levels of one point
    are shown or tiles are written: the one that is asked for, or all that the airspaces touch. The
    folder of the tiles is made and looked at only if tiles are written, so a run has two steps. -/

namespace AirspaceRaster.Run

/-- What a run tells. -/
structure Report where
  /-- The events that are shown. -/
  log : List (Severity × String) := []
  lines : List String := []
  /-- What went wrong in the end. -/
  failure : Option String := none
  /-- Whether the run broke off because there was no room for a raster. -/
  brokenOff : Bool := false

/-- The exit code: one for a failure, and one of its own for a run that broke off. -/
def Report.exitCode (r : Report) : UInt8 :=
  if r.brokenOff then 101 else if r.failure.isSome then 1 else 0

/-- The events that are shown, as the log has them. -/
def logged {table : AirspaceTable Float} (o : Options) (events : List (Event table)) :
    List (Severity × String) :=
  (Journal.lines o.limit events).map fun (s, message) => (s, Text.withoutControls message)

/-- The tiles to be written: the one of the given point, or all that cover the airspaces; none if there
    are no airspaces. -/
def tiles? (o : Options) (table : AirspaceTable Float) : Option (List Tile) :=
  match o.lat, o.lon with
  | some lat, some lon => some [Tile.containing ⟨lat, lon⟩]
  | _, _ => table.boundingBox?.map Tile.covering

def savedCount {R : Type} (results : List (Tile × Except (TileFailure R) TileOutcome)) : Nat :=
  results.countP fun r => match r.2 with
    | .ok (.saved _) => true
    | _ => false

def isFatal {R : Type} (r : Tile × Except (TileFailure R) TileOutcome) : Bool :=
  match r.2 with
  | .ok _ => false
  | .error f => f.isFatal

def never : Tile → Interrupts := fun _ => .never

/-- The results of the tiles that a run gets to, and the folder after them. -/
def process {R : Type} [Scalar R] {table : AirspaceTable R} (writer : TileWriter table)
    (tiles : List Tile) (folder : Folder) :
    List (Tile × Except (TileFailure R) TileOutcome) × Folder :=
  let (results, after) := writer.writeTiles never tiles folder
  if results.any isFatal then
    writer.writeTiles never ((Batch.reached isFatal results).map Prod.fst) folder
  else (results, after)

/-- What is reported of the tiles that failed, if there are any. -/
def failure? {R : Type} (results : List (Tile × Except (TileFailure R) TileOutcome)) :
    Option String :=
  let failed := TileWriter.failures results
  if 0 < failed then some (toString failed ++ " of " ++ toString results.length ++ " tiles failed")
  else none

/-- Writes tiles to their folder after some events. A run with a fatal failure breaks off before it sums
    up. -/
def writeTiles (o : Options) (processors : Option Nat) {table : AirspaceTable Float}
    (raster : Raster table) (before : List (Event table)) (tiles : List Tile) (folder : Folder) :
    Report × Folder :=
  let writer : TileWriter table := { raster with grid := o.grid }
  let (results, after) := process writer tiles folder
  let events := before ++ Account.start writer processors tiles.length ::
    Account.tiles writer never (results.map Prod.fst) folder
  if results.any isFatal then ({ log := logged o events, brokenOff := true }, after)
  else
    ({ log := logged o (events ++ [.batchDone (savedCount results) results.length])
       failure := failure? results },
      after)

/-- How a run goes on when the document has been read. -/
inductive Course where
  /-- There is no tile to be written. -/
  | done (report : Report)
  /-- The folder of the tiles is to be made. This is either refused, and what the run tells is known, or
      it depends on the folder, which is changed. -/
  | writing (refused : Report) (written : Folder → Report × Folder)

/-- A run on the airspaces of a document. -/
def onAirspaces (o : Options) (processors : Option Nat) (airspaces : List (Airspace Float))
    (warnings : List Warning) : Course :=
  let index := AirspaceIndex.ofTable airspaces.toArray AirspaceIndex.defaultRadius
  let raster : Raster index.table := ⟨index.vectorsNear, LevelConfig.standard⟩
  let before : List (Event index.table) :=
    .documentRead airspaces.length :: warnings.map .warning ++ [.loaded airspaces.length]
  match o.check with
  | some p =>
    let (events, result) := Traced.check raster p
    .done
      { log := logged o (before ++ events)
        lines := result.toOption.getD []
        failure := match result with
          | .ok _ => none
          | .error e => some e.message }
  | none =>
    match tiles? o index.table with
    | none => .done { log := logged o (before ++ [.nothingToDo]) }
    | some tiles =>
      .writing
        { log := logged o before, failure := some ("Failed to create " ++ o.outputDir) }
        (writeTiles o processors raster before tiles)

/-- A run on a document, which may not be there, on a machine whose number of processors may not be known. -/
def start (o : Options) (processors : Option Nat) (document : Option (List UInt8)) : Course :=
  match document.map Document.read with
  | some (.ok airspaces, warnings) => onAirspaces o processors airspaces warnings
  | _ => .done { failure := some ("Failed to read " ++ o.input) }

end AirspaceRaster.Run
