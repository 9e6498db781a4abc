/-! What the program says about itself. -/

namespace AirspaceRaster.Help

def program : String := "air-convert"

def version : String := program ++ " 0.1.0"

def usage : String := "Usage: " ++ program ++ " [OPTIONS] <INPUT> [LAT] [LON]"

/-- The lines of the help. -/
def lines : List String := [
  "Converts airspace polygons into the SkyDrop .air raster format: per-grid-point height levels " ++
    "pointing at the nearest airspace",
  "",
  usage,
  "",
  "Arguments:",
  "  <INPUT>  Airspace JSON file",
  "  [LAT]    Only compute the tile containing this latitude ...",
  "  [LON]    ... and longitude",
  "",
  "Options:",
  "  -r, --resolution <RESOLUTION>  Grid points per tile side [default: 300]",
  "  -f, --force                    Recompute tiles whose output file already exists",
  "  -c, --check <LAT,LON>          Print the levels of a single point instead of writing tiles",
  "  -o, --output-dir <OUTPUT_DIR>  Directory the tiles are written to [default: .]",
  "  -j, --jobs <JOBS>              Number of tiles computed in parallel [default: 2 × cores]",
  "  -v, --verbose...               More output, repeat for even more",
  "  -q, --quiet                    Only print warnings and errors",
  "  -h, --help                     Print help",
  "  -V, --version                  Print version" ]

end AirspaceRaster.Help
