import AirspaceRaster.Airspace.Basic
import AirspaceRaster.Airspace.Class
import AirspaceRaster.Airspace.Index
import AirspaceRaster.Airspace.Vector
import AirspaceRaster.Altitude
import AirspaceRaster.Band.Choice
import AirspaceRaster.Band.Compaction
import AirspaceRaster.Band.HeightBands
import AirspaceRaster.Band.Sweep
import AirspaceRaster.Band.Table
import AirspaceRaster.Band.Thinning
import AirspaceRaster.CommandLine.FolderPath
import AirspaceRaster.CommandLine.Help
import AirspaceRaster.CommandLine.Options
import AirspaceRaster.CommandLine.PointArgument
import AirspaceRaster.CommandLine.Run
import AirspaceRaster.Decimal.Literal
import AirspaceRaster.Decimal.Notation
import AirspaceRaster.Decimal.Shortest
import AirspaceRaster.Document.Entry
import AirspaceRaster.Document.Reading
import AirspaceRaster.Geo.BoundingBox
import AirspaceRaster.Geo.GreatCircle
import AirspaceRaster.Geo.Point
import AirspaceRaster.Geo.Ring
import AirspaceRaster.Journal.Account
import AirspaceRaster.Journal.Event
import AirspaceRaster.Journal.Message
import AirspaceRaster.Journal.Traced
import AirspaceRaster.Json.Number
import AirspaceRaster.Json.Token
import AirspaceRaster.Json.Value
import AirspaceRaster.Level.Byte
import AirspaceRaster.Level.Config
import AirspaceRaster.Level.Decoded
import AirspaceRaster.Level.Descriptor
import AirspaceRaster.Level.Record
import AirspaceRaster.Main
import AirspaceRaster.Number.Binary64
import AirspaceRaster.Number.Orientation
import AirspaceRaster.Number.Scalar
import AirspaceRaster.Number.Whole
import AirspaceRaster.Number.Word
import AirspaceRaster.Proofs.Airspace.Measured
import AirspaceRaster.Proofs.Airspace.SearchBoxes
import AirspaceRaster.Proofs.Altitude
import AirspaceRaster.Proofs.Band.Alternation
import AirspaceRaster.Proofs.Band.ByteOrder
import AirspaceRaster.Proofs.Band.Choice
import AirspaceRaster.Proofs.Band.Compaction
import AirspaceRaster.Proofs.Band.Faithful
import AirspaceRaster.Proofs.Band.FirstBest
import AirspaceRaster.Proofs.Band.FlagKept
import AirspaceRaster.Proofs.Band.InsideLimits
import AirspaceRaster.Proofs.Band.Lookup
import AirspaceRaster.Proofs.Band.OneVector
import AirspaceRaster.Proofs.Band.Representatives
import AirspaceRaster.Proofs.Band.Rivals
import AirspaceRaster.Proofs.Band.Runs
import AirspaceRaster.Proofs.Band.Selection
import AirspaceRaster.Proofs.Band.Shedding
import AirspaceRaster.Proofs.Band.SheddingOrder
import AirspaceRaster.Proofs.Band.Sweep
import AirspaceRaster.Proofs.Band.SweepLoop
import AirspaceRaster.Proofs.Band.Thinning
import AirspaceRaster.Proofs.CommandLine.PointArgument
import AirspaceRaster.Proofs.Decimal.Grammar
import AirspaceRaster.Proofs.Decimal.Nearest
import AirspaceRaster.Proofs.Document.Accounted
import AirspaceRaster.Proofs.Document.Validation
import AirspaceRaster.Proofs.Geo.BoundingBox
import AirspaceRaster.Proofs.Geo.Distance
import AirspaceRaster.Proofs.Geo.Distinct
import AirspaceRaster.Proofs.Geo.Globe
import AirspaceRaster.Proofs.Geo.Haversine
import AirspaceRaster.Proofs.Geo.Hull
import AirspaceRaster.Proofs.Geo.SearchBox
import AirspaceRaster.Proofs.Journal.Traced
import AirspaceRaster.Proofs.Level.Byte
import AirspaceRaster.Proofs.Level.Ceiling
import AirspaceRaster.Proofs.Level.Monotone
import AirspaceRaster.Proofs.Level.Quantized
import AirspaceRaster.Proofs.Level.RoundTrip
import AirspaceRaster.Proofs.Number.Comparison
import AirspaceRaster.Proofs.Number.Exact
import AirspaceRaster.Proofs.Number.Magnitude
import AirspaceRaster.Proofs.Number.Order
import AirspaceRaster.Proofs.Number.Place
import AirspaceRaster.Proofs.Number.Real
import AirspaceRaster.Proofs.Number.Rounding
import AirspaceRaster.Proofs.Number.Scientific
import AirspaceRaster.Proofs.Number.Value
import AirspaceRaster.Proofs.Raster.Budget
import AirspaceRaster.Proofs.Raster.Covering
import AirspaceRaster.Proofs.Raster.Enumeration
import AirspaceRaster.Proofs.Raster.Filling
import AirspaceRaster.Proofs.Raster.Folder
import AirspaceRaster.Proofs.Raster.Footprint
import AirspaceRaster.Proofs.Raster.Grid
import AirspaceRaster.Proofs.Raster.InsideKept
import AirspaceRaster.Proofs.Raster.Interleaving
import AirspaceRaster.Proofs.Raster.Lattice
import AirspaceRaster.Proofs.Raster.Layout
import AirspaceRaster.Proofs.Raster.NearestKept
import AirspaceRaster.Proofs.Raster.OwnFile
import AirspaceRaster.Proofs.Raster.RecordLayout
import AirspaceRaster.Proofs.Raster.Rerun
import AirspaceRaster.Proofs.Raster.Room
import AirspaceRaster.Proofs.Raster.SameRecord
import AirspaceRaster.Proofs.Raster.Sampling
import AirspaceRaster.Proofs.Raster.Session
import AirspaceRaster.Proofs.Raster.Settled
import AirspaceRaster.Proofs.Raster.Tasks
import AirspaceRaster.Proofs.Raster.TileName
import AirspaceRaster.Proofs.Raster.UsedLevels
import AirspaceRaster.Proofs.Text.Decoding
import AirspaceRaster.Raster.Batch
import AirspaceRaster.Raster.Folder
import AirspaceRaster.Raster.Grid
import AirspaceRaster.Raster.PointRecord
import AirspaceRaster.Raster.Tile
import AirspaceRaster.Raster.Writer
import AirspaceRaster.Text.Blank
import AirspaceRaster.Text.Column
import AirspaceRaster.Text.Control
import AirspaceRaster.Text.Decoding
import AirspaceRaster.Text.Printable
import AirspaceRaster.Text.Quoted
import AirspaceRaster.Text.Unicode
import AirspaceRaster.Text.Windows1252
