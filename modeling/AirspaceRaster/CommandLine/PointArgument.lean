import AirspaceRaster.Journal.Message
import AirspaceRaster.Text.Blank

/-! A point as an argument: latitude and longitude with a comma between them. -/

namespace AirspaceRaster

/-- Why an argument is no point. -/
inductive PointFault where
  | noComma (argument : String)
  /-- A part is blank. -/
  | missingNumber (part : String)
  /-- A part is something else than a number. -/
  | noNumber (part : String)
  | outOfRange (p : Point Float)

def PointFault.message : PointFault → String
  | noComma argument => "expected LAT,LON, got " ++ Text.quoted argument
  | missingNumber part => Text.quoted part ++ ": cannot parse float from empty string"
  | noNumber part => Text.quoted part ++ ": invalid float literal"
  | outOfRange p => p.text ++ " is out of range"

namespace PointArgument

/-- The characters before and after the first comma. -/
def split? (cs : List Char) : Option (List Char × List Char) :=
  match cs.dropWhile (· != ',') with
  | [] => none
  | _ :: rest => some (cs.takeWhile (· != ','), rest)

/-- The number of one part; white space around it does not count. -/
def parsePart (part : List Char) : Except PointFault Float :=
  match Text.strip part with
  | [] => .error (.missingNumber (String.ofList part))
  | cs =>
    match Decimal.Literal.read? cs with
    | none => .error (.noNumber (String.ofList part))
    | some l => .ok l.value

/-- The point of an argument. The latitude is looked at before the longitude, and the range last. -/
def parse (s : String) : Except PointFault (Point Float) :=
  match split? s.toList with
  | none => .error (.noComma s)
  | some (first, second) => do
    let lat ← parsePart first
    let lon ← parsePart second
    let p : Point Float := ⟨lat, lon⟩
    if p.isValid then .ok p else .error (.outOfRange p)

end PointArgument

end AirspaceRaster
