import AirspaceRaster.Airspace.Basic
import AirspaceRaster.Document.Entry
import AirspaceRaster.Text.Decoding

/-! Reading airspaces from a document. Entries of a class that does not belong into the raster are left
    out with a warning. All others must have a floor below their ceiling and a boundary on the globe
    with at least three different points; an open boundary is closed with a warning. The first entry
    that is not valid ends the reading. -/

namespace AirspaceRaster

/-- A limit in whole feet, a half going away from zero, as far as altitudes reach. -/
def LimitEntry.altitude {R : Type} [Scalar R] (l : LimitEntry R) : Altitude where
  feet := (Scalar.nearest l.feet).saturate Altitude.minFeet Altitude.maxFeet
  reference := l.reference

/-- What is wrong with a boundary. -/
inductive BoundaryFault (R : Type) where
  | outOfRange (p : Point R)
  | tooFewPoints (distinct : Nat)
  deriving Repr

/-- Why a document cannot be read. -/
inductive ReadFailure (R : Type) where
  /-- The text does not have the form of a document. -/
  | malformed
  | invalidBand (name : String) (floor ceiling : Altitude)
  | invalidBoundary (name : String) (fault : BoundaryFault R)
  deriving Repr

/-- What is noted about an entry that is no failure. -/
inductive Warning where
  | skippedClass (name code : String)
  | unclosedBoundary (name : String)
  deriving DecidableEq, Repr

/-- The different points of a list, each where it comes first. -/
def Point.distinct {R : Type} [Scalar R] (ps : List (Point R)) : List (Point R) :=
  ps.foldl (fun seen p => if seen.contains p then seen else seen ++ [p]) []

/-- The first fault of a boundary. -/
def BoundaryFault.find? {R : Type} [Scalar R] (ps : List (Point R)) : Option (BoundaryFault R) :=
  match ps.find? (!·.isValid) with
  | some p => some (.outOfRange p)
  | none =>
    let count := (Point.distinct ps).length
    if count < 3 then some (.tooFewPoints count) else none

namespace Entry
variable {R : Type} [Scalar R]

def points (e : Entry R) : List (Point R) :=
  e.boundary.map Point.ofMap

/-- The class that the code stands for; without a code it is not known. -/
def category (e : Entry R) : AirspaceClass :=
  (e.code.map AirspaceClass.ofCode).getD .unknown

/-- The first fault of an entry whose class belongs into the raster. -/
def fault? (e : Entry R) : Option (ReadFailure R) :=
  if e.ceiling.altitude ≤ e.floor.altitude then
    some (.invalidBand e.name e.floor.altitude e.ceiling.altitude)
  else (BoundaryFault.find? e.points).map (.invalidBoundary e.name)

def airspace (e : Entry R) : Airspace R :=
  .ofBoundary e.name e.category e.floor.altitude e.ceiling.altitude e.points

/-- What an entry gives: an airspace if its class belongs into the raster, and perhaps a warning. -/
def convert (e : Entry R) : Except (ReadFailure R) (Option (Airspace R) × List Warning) :=
  if !e.category.isRasterized then .ok (none, [.skippedClass e.name (e.code.getD "")])
  else match e.fault? with
    | some f => .error f
    | none =>
      .ok (some e.airspace, if Ring.isClosed e.points then [] else [.unclosedBoundary e.name])

end Entry

namespace Document

/-- Converts some entries one after the other. Their airspaces come behind those that there are already, and
    their warnings behind those that have been noted before; the first failure ends it. -/
def convertOnto {R : Type} [Scalar R] (airspaces : List (Airspace R)) (noted : List Warning) :
    List (Entry R) → Except (ReadFailure R) (List (Airspace R)) × List Warning
  | [] => (.ok airspaces, noted)
  | e :: rest =>
    match e.convert with
    | .error f => (.error f, noted)
    | .ok (airspace, warnings) =>
      convertOnto (airspaces ++ airspace.toList) (noted ++ warnings) rest

/-- The airspaces of a file or the first failure, and the warnings up to there behind those that have been
    noted before. -/
def readOnto (noted : List Warning) (bytes : List UInt8) :
    Except (ReadFailure Float) (List (Airspace Float)) × List Warning :=
  match parse? (Text.decode bytes) with
  | none => (.error .malformed, noted)
  | some entries => convertOnto [] noted entries

def read (bytes : List UInt8) : Except (ReadFailure Float) (List (Airspace Float)) × List Warning :=
  readOnto [] bytes

end Document

end AirspaceRaster
