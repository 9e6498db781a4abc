import AirspaceRaster.Band.Table
import AirspaceRaster.Journal.Event

/-! The texts of failures, warnings and events. -/

namespace AirspaceRaster

/-- A point with six places. -/
def Point.text (p : Point Float) : String :=
  Decimal.fixed 6 p.lat ++ "," ++ Decimal.fixed 6 p.lon

/-- A vector with its fields. -/
def AirspaceVector.text {table : AirspaceTable Float} (v : AirspaceVector table) : String :=
  "AirspaceVector \x7b airspace: " ++ Text.quoted v.airspace.name ++
  ", distance: " ++ Decimal.full v.distance ++
  ", bearing: " ++ Decimal.full v.bearing ++
  ", inside: " ++ toString v.inside ++ " \x7d"

def BudgetExceeded.message (e : BudgetExceeded Float) : String :=
  "Too many airspaces and none is far away at " ++ e.point.text ++
  " (" ++ toString e.levels ++ " levels available)"

def BoundaryFault.message : BoundaryFault Float → String
  | .outOfRange p => "coordinate out of range: " ++ p.text
  | .tooFewPoints n => toString n ++ " distinct points, at least 3 needed"

def ReadFailure.message : ReadFailure Float → String
  | .malformed => "Invalid airspace file"
  | .invalidBand name floor ceiling =>
    "Airspace " ++ Text.quoted name ++ ": floor " ++ floor.text ++
    " is not below ceiling " ++ ceiling.text
  | .invalidBoundary name fault =>
    "Airspace " ++ Text.quoted name ++ ": invalid boundary (" ++ fault.message ++ ")"

def EncodeFailure.message : EncodeFailure Float → String
  | .budget e => e.message
  | .doesNotFit => "There is no room for the record"

def TileFailure.message : TileFailure Float → String
  | .encoding e => e.message
  | .interrupted t => "Interrupted while computing " ++ t.fileName
  | .folder reason => "I/O error: " ++ reason

def Warning.message : Warning → String
  | .skippedClass name code => "Skipping airspace " ++ Text.quoted name ++ " of class " ++ code
  | .unclosedBoundary name =>
    "Airspace " ++ Text.quoted name ++ ": boundary not closed, closing it"

/-- The heading of the bands at one stage. -/
def Stage.title : Stage → String
  | .near => "All near airspaces sorted by height"
  | .unique => "Only unique airspaces (all duplicates removed)"
  | .merged => "Airspaces with identical distance/angle removed"
  | .trimmed => "Distant airspaces removed to fit the levels"

def Event.message {table : AirspaceTable Float} : Event table → String
  | .chosen h v => h.text ++ ": " ++ v.text
  | .dropped v => "Deleting " ++ v.text
  | .stage s b => s.title ++ ":\n" ++ b.text
  | .point p count => p.text ++ ": " ++ toString count ++ " airspaces here"
  | .documentRead count => "read " ++ toString count ++ " airspaces"
  | .warning w => w.message
  | .loaded count => "Loaded " ++ toString count ++ " airspaces"
  | .nothingToDo => "No airspaces, nothing to do"
  | .batchStarted tiles workers =>
    "Processing " ++ toString tiles ++ " tiles on " ++ toString workers ++ " workers..."
  | .tileSkipped t => t.fileName ++ " exists, skipping..."
  | .tileStarted t n =>
    t.fileName ++ " computing (" ++ toString n ++ "x" ++ toString n ++ ")"
  | .rowDone t percent => t.fileName ++ ": " ++ toString percent ++ " %"
  | .tileEmpty t => t.fileName ++ " is empty"
  | .tileRemoved t => t.fileName ++ " removed stale file"
  | .tileSaved t => t.fileName ++ " saved"
  | .tileFailed t f => t.fileName ++ " failed: " ++ f.message
  | .batchDone saved tiles => toString saved ++ " of " ++ toString tiles ++ " tiles saved"

/-- The events that are at least as important as some severity, each as its severity and its text. -/
def Journal.lines {table : AirspaceTable Float} (limit : Severity) (events : List (Event table)) :
    List (Severity × String) :=
  (events.filter fun e => e.severity.rank ≤ limit.rank).map fun e => (e.severity, e.message)

end AirspaceRaster
