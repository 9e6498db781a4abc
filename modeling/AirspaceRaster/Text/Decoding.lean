import AirspaceRaster.Text.Unicode
import AirspaceRaster.Text.Windows1252

/-! The text of a file whose character set is not known. It is UTF-8 if it can be. If not, a byte
    order mark at its start names the encoding, and without one every byte is a character of
    Windows-1252, as in many older airspace files. -/

namespace AirspaceRaster.Text

/-- The bytes without one UTF-8 byte order mark at their start. -/
def withoutMark : List UInt8 → List UInt8
  | 0xEF :: 0xBB :: 0xBF :: rest => rest
  | bs => bs

/-- The text of bytes that are valid UTF-8 throughout. -/
def utf8? (bs : List UInt8) : Option String :=
  String.fromUTF8? ⟨bs.toArray⟩

/-- The text of bytes that are not UTF-8. -/
def fallback : List UInt8 → List Char
  | 0xEF :: 0xBB :: 0xBF :: rest => Utf8.decode rest
  | 0xFF :: 0xFE :: rest => Utf16.decode .littleEndian rest
  | 0xFE :: 0xFF :: rest => Utf16.decode .bigEndian rest
  | bs => Windows1252.decode bs

/-- The text of a file. -/
def decode (bs : List UInt8) : String :=
  let bs := withoutMark bs
  match utf8? bs with
  | some s => s
  | none => String.ofList (fallback bs)

end AirspaceRaster.Text
