import AirspaceRaster.Text.Blank

/-! Airspace classes and their codes. -/

namespace AirspaceRaster

inductive AirspaceClass where
  | unknown
  | restricted
  | danger
  | prohibited
  | classA
  | classB
  | classC
  | classD
  | classG
  | controlZone
  | gliderProhibited
  | radioMandatoryZone
  | transponderMandatoryZone
  | waveWindow
  /-- A code without a meaning of its own. -/
  | other (code : String)
  deriving DecidableEq, Repr

namespace AirspaceClass

/-- The class that a code stands for; white space around the code does not count. -/
def ofCode (code : String) : AirspaceClass :=
  match Text.trim code with
  | "" => unknown
  | "R" => restricted
  | "Q" => danger
  | "P" => prohibited
  | "A" => classA
  | "B" => classB
  | "C" => classC
  | "D" => classD
  | "G" => classG
  | "CTR" => controlZone
  | "GP" => gliderProhibited
  | "RMZ" => radioMandatoryZone
  | "TMZ" => transponderMandatoryZone
  | "W" => waveWindow
  | code => other code

/-- Whether airspaces of the class belong into the raster. Zones that only demand a radio or a
    transponder, danger areas, wave windows and class G are nothing that a pilot has to avoid. -/
def isRasterized : AirspaceClass → Bool
  | radioMandatoryZone => false
  | transponderMandatoryZone => false
  | danger => false
  | waveWindow => false
  | classG => false
  | _ => true

end AirspaceClass

end AirspaceRaster
