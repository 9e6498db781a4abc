/-! Making the folder that a path names, with all the folders above it that are missing. The path is
    tried first as it is written; then one name after the other is taken from its end until a folder is
    there or can be made, and from that one the folders are made downwards. So a path that leads
    through a missing folder and back, such as `a/../b`, makes both. -/

namespace AirspaceRaster.FolderPath

inductive Making where
  | made
  /-- There is a folder already. -/
  | present
  /-- A folder on the way is missing. -/
  | missing
  | refused
  deriving DecidableEq, Repr

/-- Whether a name on a path stands for the folder that it is in. -/
def isPoint (name : String) : Bool :=
  name == "" || name == "."

/-- The names of a path, the last one first, without points behind it. -/
def namesUpwards (path : String) : List String :=
  (path.splitOn "/").reverse.dropWhile isPoint

/-- The paths that are left when names are taken from the end, as long as there is one. -/
def shortened : List String → List String
  | [] => []
  | name :: rest =>
    if isPoint name then shortened rest
    else "/".intercalate (name :: rest).reverse :: shortened rest

/-- The paths of the folders above the one that a path names, from the innermost to the outermost. -/
def above (path : String) : List String :=
  shortened (namesUpwards path).tail

section Making
variable {m : Type → Type} [Monad m] (make : String → m Making)

/-- Goes up the paths until there is a folder. The ones that are still to be made are returned, the
    innermost first; there is no result if a path is refused. -/
def climb : List String → m (Option (List String))
  | [] => return some []
  | path :: rest => do
    match ← make path with
    | .made => return some []
    | .present => return some []
    | .missing => return (← climb rest).map (path :: ·)
    | .refused => return none

/-- Makes folders one after the other, and tells whether all of them are there. -/
def descend : List String → m Bool
  | [] => return true
  | path :: rest => do
    match ← make path with
    | .made => descend rest
    | .present => descend rest
    | .missing => return false
    | .refused => return false

/-- Makes the folder of a path, and tells whether it is there. -/
def makeAll (path : String) : m Bool := do
  match ← climb make (path :: above path) with
  | some missing => descend make missing.reverse
  | none => return false

end Making

end AirspaceRaster.FolderPath
