import AirspaceRaster.CommandLine.FolderPath
import AirspaceRaster.CommandLine.Help
import AirspaceRaster.CommandLine.Run

/-! The program: it reads the document, makes the output folder and looks at it if tiles are to be
    written, and then does what the run has decided. -/

namespace AirspaceRaster.Program

def makeFolder (path : String) : IO FolderPath.Making := do
  try
    IO.FS.createDir path
    return .made
  catch e =>
    match e with
    | .noFileOrDirectory .. => return .missing
    | .alreadyExists .. =>
      return if ← (System.mkFilePath [path]).isDir then .present else .refused
    | _ => return .refused

/-- The folder at a path. The content of its files does not matter for a run and is not read. -/
def look (path : String) : IO Folder := do
  let entries ← (System.mkFilePath [path]).readDir
  return .present (← entries.toList.mapM fun e => do
    return (e.fileName, if ← e.path.isDir then .folder else .file #[]))

/-- Writes a file under a temporary name and moves it to its own. -/
def save (path name : String) (content : Array UInt8) : IO Unit := do
  let place := System.mkFilePath [path, name]
  let temporary := System.mkFilePath [path, "." ++ name ++ ".part"]
  IO.FS.writeBinFile temporary ⟨content⟩
  IO.FS.rename temporary place

/-- Turns the folder at a path into what a run has made of it. -/
def settle (path : String) (before after : Folder) : IO Unit := do
  for (name, _) in before.entries do
    unless after.hasEntry name do
      IO.FS.removeFile (System.mkFilePath [path, name])
  for (name, entry) in after.entries do
    match entry with
    | .folder => pure ()
    | .file content =>
      unless before.entry? name = some entry do save path name content

/-- The bytes of the document, if they can be read. -/
def document (path : String) : IO (Option (List UInt8)) := do
  try
    return some (← IO.FS.readBinFile path).toList
  catch _ =>
    return none

/-- The number of processors of the machine, if it tells. -/
def processors : IO (Option Nat) := do
  try
    let count := (← IO.FS.lines "/proc/cpuinfo").countP (·.startsWith "processor")
    return if count = 0 then none else some count
  catch _ =>
    return none

/-- Tells what a run has to tell, and returns its exit code. -/
def tell (report : Run.Report) : IO UInt32 := do
  for (severity, message) in report.log do
    IO.eprintln ("[" ++ severity.label ++ "] " ++ message)
  for line in report.lines do
    IO.println line
  if let some failure := report.failure then
    IO.eprintln ("Error: " ++ failure)
  if report.brokenOff then
    IO.eprintln "There is no room for the raster"
  return report.exitCode.toUInt32

def perform (o : Options) : IO UInt32 := do
  match Run.start o (← processors) (← document o.input) with
  | .done report => tell report
  | .writing refused written =>
    if ← FolderPath.makeAll makeFolder o.outputDir then
      let before ← look o.outputDir
      let (report, after) := written before
      settle o.outputDir before after
      tell report
    else tell refused

end AirspaceRaster.Program

open AirspaceRaster in
/-- Does what the arguments ask for. -/
def main (args : List String) : IO UInt32 := do
  match Arguments.parse args with
  | .ok options => Program.perform options
  | .error .help =>
    Help.lines.forM IO.println
    return 0
  | .error .version =>
    IO.println Help.version
    return 0
  | .error .usage =>
    IO.eprintln ("error: the arguments do not go together\n\n" ++ Help.usage)
    return 2
