import AirspaceRaster.Document.Reading
import AirspaceRaster.Raster.Writer

/-! What is worth noting while airspaces are read and tiles are computed, and how important it is. -/

namespace AirspaceRaster

/-- How important an event is, from most to least. -/
inductive Severity where
  | error
  | warn
  | info
  | debug
  | trace
  deriving DecidableEq, Repr

namespace Severity

/-- The place in the order of importance, from the most important on. -/
def rank : Severity → Nat
  | error => 1
  | warn => 2
  | info => 3
  | debug => 4
  | trace => 5

def label : Severity → String
  | error => "ERROR"
  | warn => "WARN"
  | info => "INFO"
  | debug => "DEBUG"
  | trace => "TRACE"

end Severity

/-- The points of the compaction at which the bands are shown. -/
inductive Stage where
  | near
  | unique
  | merged
  | trimmed
  deriving DecidableEq, Repr

inductive Event {R : Type} (table : AirspaceTable R) where
  /-- A vector was chosen for the band that starts at an altitude. -/
  | chosen (h : Altitude) (v : AirspaceVector table)
  /-- The bands of an airspace are dropped. -/
  | dropped (v : AirspaceVector table)
  | stage (s : Stage) (b : HeightBands table)
  /-- The bands of a point with some airspaces around it are worked out. -/
  | point (p : Point R) (count : Nat)
  | documentRead (count : Nat)
  | warning (w : Warning)
  | loaded (count : Nat)
  | nothingToDo
  | batchStarted (tiles workers : Nat)
  | tileSkipped (t : Tile)
  | tileStarted (t : Tile) (n : Nat)
  | rowDone (t : Tile) (percent : Nat)
  | tileEmpty (t : Tile)
  | tileRemoved (t : Tile)
  | tileSaved (t : Tile)
  | tileFailed (t : Tile) (f : TileFailure R)
  | batchDone (saved tiles : Nat)

/-- How important an event is. -/
def Event.severity {R : Type} {table : AirspaceTable R} : Event table → Severity
  | .chosen .. => .trace
  | .dropped .. => .trace
  | .stage .. => .debug
  | .point .. => .debug
  | .documentRead .. => .debug
  | .warning .. => .warn
  | .loaded .. => .info
  | .nothingToDo => .info
  | .batchStarted .. => .info
  | .tileSkipped .. => .info
  | .tileStarted .. => .info
  | .rowDone .. => .debug
  | .tileEmpty .. => .info
  | .tileRemoved .. => .info
  | .tileSaved .. => .info
  | .tileFailed .. => .error
  | .batchDone .. => .info

end AirspaceRaster
