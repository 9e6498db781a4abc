/-! The character set Windows-1252: one character for every byte. -/

namespace AirspaceRaster.Text.Windows1252

/-- The characters of the bytes from `0x80` to `0x9F`; the five bytes without a character of their
    own stand for the control of the same number. -/
def upperControls : List Char :=
  [ '\u20AC', '\u0081', '\u201A', '\u0192', '\u201E', '\u2026', '\u2020', '\u2021',
    '\u02C6', '\u2030', '\u0160', '\u2039', '\u0152', '\u008D', '\u017D', '\u008F',
    '\u0090', '\u2018', '\u2019', '\u201C', '\u201D', '\u2022', '\u2013', '\u2014',
    '\u02DC', '\u2122', '\u0161', '\u203A', '\u0153', '\u009D', '\u017E', '\u0178' ]

def char (b : UInt8) : Char :=
  if 0x80 ≤ b.toNat ∧ b.toNat < 0xA0 then upperControls.getD (b.toNat - 0x80) ' '
  else Char.ofNat b.toNat

def decode (bs : List UInt8) : List Char :=
  bs.map char

end AirspaceRaster.Text.Windows1252
