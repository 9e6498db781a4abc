/-! Columns of text: a cell is filled up with blanks to its width, counted in characters, and a cell
    that is too wide stays as it is. -/

namespace AirspaceRaster.Text

/-- As many blanks as a text lacks to a width. -/
def filling (width : Nat) (s : String) : String :=
  String.ofList (List.replicate (width - s.length) ' ')

def alignRight (width : Nat) (s : String) : String :=
  filling width s ++ s

def alignLeft (width : Nat) (s : String) : String :=
  s ++ filling width s

/-- An integer filled up with zeros between its sign and its digits; the sign counts as well. -/
def zeroFilled (width : Nat) (n : Int) : String :=
  let sign := if n < 0 then "-" else ""
  let digits := toString n.natAbs
  sign ++ String.ofList (List.replicate (width - sign.length - digits.length) '0') ++ digits

end AirspaceRaster.Text
