import AirspaceRaster.Journal.Account

/-! The record of a single point worked out step by step, with the bands at every stage. The steps are
    those of the raster, so the result is the record that the raster holds for the point. -/

namespace AirspaceRaster.Traced

variable {R : Type} [Scalar R] {table : AirspaceTable R}

/-- The compaction with the bands at every stage. -/
def compact (config : LevelConfig R) (point : Point R) (b : HeightBands table) :
    List (Event table) × Except (BudgetExceeded R) (HeightBands table) :=
  let unique := b.dropRepeated
  let merged := if config.levels < unique.size then unique.dropAlike config else unique
  let (dropped, _) := merged.shed config.levels
  let result := merged.trim config.levels point
  let last := match result with
    | .ok trimmed => [.stage .trimmed trimmed]
    | .error _ => []
  ([.stage .near b, .stage .unique unique, .stage .merged merged] ++ dropped.map .dropped ++ last,
    result)

def encode (config : LevelConfig R) (point : Point R) (vs : List (AirspaceVector table)) :
    List (Event table) × Except (EncodeFailure R) (List UInt8) :=
  let (events, result) := compact config point (Sweep.resolve vs)
  (.point point vs.length :: Account.resolve vs ++ events, PointRecord.pack config result)

def check {table : AirspaceTable Float} (r : Raster table) (p : Point Float) :
    List (Event table) × Except (EncodeFailure Float) (List String) :=
  let (events, record) := encode r.config p (r.near p)
  (events, record.map (Record.describe r.config))

end AirspaceRaster.Traced
