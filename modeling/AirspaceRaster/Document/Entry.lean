import AirspaceRaster.Altitude
import AirspaceRaster.Json.Value

/-! The form of an airspace document:

        {"airspaces": [{"name": "CTR", "class": "CTR",
                        "floor": {"ft": 0, "ref": "AGL"}, "ceiling": {"ft": 5000, "ref": "MSL"},
                        "boundary": [[9.1, 48.6], [9.3, 48.6], [9.3, 48.8], [9.1, 48.6]]}]}

    A class may be missing or null, and a reference may be missing, which makes it `MSL`. Fields with
    other names are ignored, and a field must not be given twice. Every object may also be written as
    the array of its fields, in the order shown. -/

namespace AirspaceRaster

/-- A limit as it stands in a document. -/
structure LimitEntry (R : Type) where
  feet : R
  reference : Reference
  deriving DecidableEq, Repr

/-- An airspace as it stands in a document; the boundary consists of longitudes and latitudes. -/
structure Entry (R : Type) where
  name : String
  code : Option String
  floor : LimitEntry R
  ceiling : LimitEntry R
  boundary : List (R × R)
  deriving DecidableEq, Repr

namespace Document

open Json (Value Pieces)

/-- A string without halves of characters. -/
def text? : Value → Option String
  | .string s => s.text?.map String.ofList
  | _ => none

/-- A number that is not too large for a double. -/
def number? : Value → Option Float
  | .number n => n.value?
  | _ => none

def items? : Value → Option (List Value)
  | .array items => some items
  | _ => none

/-- The values of a field among the members of an object. -/
def given (members : List (Pieces × Value)) (name : String) : List Value :=
  (members.filter fun m => m.1.text? == some name.toList).map Prod.snd

/-- The values of the named fields of an object, each of them if it is given, or the items of an array
    in their place. -/
def fields? (names : List String) : Value → Option (List (Option Value))
  | .object members =>
    if members.all fun m => m.1.text?.isSome then
      names.mapM fun name =>
        match given members name with
        | [] => some none
        | [v] => some (some v)
        | _ => none
    else none
  | .array items =>
    if items.length ≤ names.length then
      some (items.map some ++ List.replicate (names.length - items.length) none)
    else none
  | _ => none

/-- The reference of a name. -/
def referenceOf? : List Char → Option Reference
  | ['M', 'S', 'L'] => some .sea
  | ['A', 'M', 'S', 'L'] => some .sea
  | ['A', 'G', 'L'] => some .ground
  | _ => none

/-- A reference is its name, or an object with the name as the only key and null as its value. -/
def reference? : Value → Option Reference
  | .string s => s.text?.bind referenceOf?
  | .object [(key, .null)] => key.text?.bind referenceOf?
  | _ => none

/-- A limit has its feet and may have a reference. -/
def limit? (v : Value) : Option (LimitEntry Float) := do
  match ← fields? ["ft", "ref"] v with
  | [some ft, reference] =>
    let feet ← number? ft
    let reference ← match reference with
      | none => some .sea
      | some r => reference? r
    return ⟨feet, reference⟩
  | _ => none

def code? : Value → Option (Option String)
  | .null => some none
  | v => (text? v).map some

def point? (v : Value) : Option (Float × Float) := do
  match ← items? v with
  | [lon, lat] => return (← number? lon, ← number? lat)
  | _ => none

/-- An airspace has all its fields except the class. -/
def entry? (v : Value) : Option (Entry Float) := do
  match ← fields? ["name", "class", "floor", "ceiling", "boundary"] v with
  | [some name, code, some floor, some ceiling, some boundary] =>
    return {
      name := ← text? name
      code := ← (code.map code?).getD (some none)
      floor := ← limit? floor
      ceiling := ← limit? ceiling
      boundary := ← (← items? boundary).mapM point? }
  | _ => none

def entries? (v : Value) : Option (List (Entry Float)) := do
  match ← fields? ["airspaces"] v with
  | [some airspaces] => (← items? airspaces).mapM entry?
  | _ => none

/-- The airspaces of the text of a document; none if the text does not have the form. -/
def parse? (s : String) : Option (List (Entry Float)) :=
  (Json.parse? s).bind entries?

end Document

end AirspaceRaster
