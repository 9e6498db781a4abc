/-! Text for a log, where the ASCII controls that would only do something on a screen are left out. -/

namespace AirspaceRaster.Text

/-- Whether a control belongs to the layout of a text: tabs, line ends and form feeds do. -/
def isLayout (c : Char) : Bool :=
  c == '\t' || c == '\n' || c == '\x0c' || c == '\r'

/-- Whether a character may stand in a log. -/
def isLoggable (c : Char) : Bool :=
  isLayout c || (0x20 ≤ c.toNat && c.toNat != 0x7F)

/-- A text without the controls that are not part of its layout. -/
def withoutControls (s : String) : String :=
  String.ofList (s.toList.filter isLoggable)

end AirspaceRaster.Text
