/-! The folder that the tiles are written to, as a map from names to entries. A file is written under a
    temporary name and then moved to its own, so it is there with all its content or not at all. -/

namespace AirspaceRaster

/-- What a name in a folder stands for. -/
inductive FolderEntry where
  | file (content : Array UInt8)
  | folder
  deriving DecidableEq, Repr

/-- A folder on disk. -/
inductive Folder where
  /-- Nothing is there yet. -/
  | missing
  | present (entries : List (String × FolderEntry))
  deriving DecidableEq, Repr

/-- An operation on the folder that the system refuses. -/
structure FolderFailure where
  reason : String
  deriving DecidableEq, Repr

namespace Folder

/-- The entries of a list with one set to a new value, in its place if it is there. -/
def setEntry (name : String) (e : FolderEntry) :
    List (String × FolderEntry) → List (String × FolderEntry)
  | [] => [(name, e)]
  | (n, x) :: rest => if n = name then (n, e) :: rest else (n, x) :: setEntry name e rest

def entries : Folder → List (String × FolderEntry)
  | present es => es
  | _ => []

/-- The entry of a name. -/
def entry? (f : Folder) (name : String) : Option FolderEntry :=
  f.entries.lookup name

def hasEntry (f : Folder) (name : String) : Bool :=
  (f.entry? name).isSome

/-- The folder with a file of some content, which replaces an older file. -/
def writeFile (f : Folder) (name : String) (content : Array UInt8) : Except FolderFailure Folder :=
  match f with
  | missing => .error ⟨"No such file or directory (os error 2)"⟩
  | present es =>
    match es.lookup name with
    | some .folder => .error ⟨"Is a directory (os error 21)"⟩
    | _ => .ok (present (setEntry name (.file content) es))

/-- The folder without a file. -/
def removeFile (f : Folder) (name : String) : Except FolderFailure Folder :=
  match f.entry? name with
  | none => .error ⟨"No such file or directory (os error 2)"⟩
  | some .folder => .error ⟨"Is a directory (os error 21)"⟩
  | some (.file _) => .ok (present (f.entries.filter fun e => e.1 ≠ name))

end Folder

end AirspaceRaster
