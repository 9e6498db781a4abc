import AirspaceRaster.Band.HeightBands
import AirspaceRaster.Decimal.Notation
import AirspaceRaster.Text.Column
import AirspaceRaster.Text.Quoted

/-! Height bands as a table for diagnostics, the highest band first. -/

namespace AirspaceRaster.HeightBands

variable {table : AirspaceTable Float}

/-- The line of one band: where it starts, the limits of its airspace, whether the point is inside,
    distance and bearing, and the name. -/
def row (h : Altitude) (v : AirspaceVector table) : String :=
  " " ++ Text.alignRight 12 h.text ++
  "  " ++ Text.alignRight 12 v.floor.text ++
  " .. " ++ Text.alignLeft 12 v.ceiling.text ++
  " " ++ Text.alignLeft 6 (if v.inside then "INSIDE" else "") ++
  " " ++ Text.alignRight 6 (Decimal.fixed 1 (v.distance / 1000.0)) ++ "km" ++
  " " ++ Text.alignRight 3 (Decimal.fixed 0 v.bearing) ++ "°" ++
  " " ++ Text.quoted v.airspace.name

def text (b : HeightBands table) : String :=
  String.join (b.toList.reverse.map fun (h, v) => row h v ++ "\n")

end AirspaceRaster.HeightBands
