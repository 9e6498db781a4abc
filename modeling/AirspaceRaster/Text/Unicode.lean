/-! Reading UTF-8 and UTF-16 that may be damaged: every part that is no character becomes the
    replacement character. -/

namespace AirspaceRaster.Text

/-- Stands for a damaged part. -/
def replacement : Char := '\uFFFD'

namespace Utf8

/-- A character of which some bytes are still to come. -/
structure Pending where
  /-- The bits read so far. -/
  bits : Nat
  /-- How many bytes are missing after the next one. -/
  after : Nat
  /-- The range of the next byte. -/
  low : Nat
  high : Nat

/-- What the first byte of a character says. -/
inductive Start where
  | complete (c : Char)
  | pending (p : Pending)
  | invalid

/-- The first byte decides the length, and for some bytes it narrows the range of the second one so
    that no character has two forms and none lies outside of Unicode. -/
def Start.ofByte (b : Nat) : Start :=
  if b < 0x80 then .complete (Char.ofNat b)
  else if b < 0xC2 then .invalid
  else if b < 0xE0 then .pending ⟨b - 0xC0, 0, 0x80, 0xBF⟩
  else if b < 0xF0 then
    .pending ⟨b - 0xE0, 1, if b = 0xE0 then 0xA0 else 0x80, if b = 0xED then 0x9F else 0xBF⟩
  else if b < 0xF5 then
    .pending ⟨b - 0xF0, 2, if b = 0xF0 then 0x90 else 0x80, if b = 0xF4 then 0x8F else 0xBF⟩
  else .invalid

/-- Reads on from the bytes of a character that have been read, if any. A byte that does not continue
    it ends the damaged part and starts anew. -/
def decodeFrom : Option Pending → List UInt8 → List Char
  | none, [] => []
  | some _, [] => [replacement]
  | none, b :: rest =>
    match Start.ofByte b.toNat with
    | .complete c => c :: decodeFrom none rest
    | .pending p => decodeFrom (some p) rest
    | .invalid => replacement :: decodeFrom none rest
  | some p, b :: rest =>
    if p.low ≤ b.toNat ∧ b.toNat ≤ p.high then
      let bits := p.bits * 64 + b.toNat % 64
      match p.after with
      | 0 => Char.ofNat bits :: decodeFrom none rest
      | n + 1 => decodeFrom (some ⟨bits, n, 0x80, 0xBF⟩) rest
    else
      match Start.ofByte b.toNat with
      | .complete c => replacement :: c :: decodeFrom none rest
      | .pending q => replacement :: decodeFrom (some q) rest
      | .invalid => replacement :: replacement :: decodeFrom none rest

/-- The text of bytes in UTF-8. -/
def decode (bs : List UInt8) : List Char :=
  decodeFrom none bs

end Utf8

namespace Utf16

/-- The order of the two bytes of a unit. -/
inductive ByteOrder where
  | littleEndian
  | bigEndian
  deriving DecidableEq, Repr

/-- The unit that two bytes make up. -/
def unit : ByteOrder → UInt8 → UInt8 → Nat
  | .littleEndian, a, b => b.toNat * 256 + a.toNat
  | .bigEndian, a, b => a.toNat * 256 + b.toNat

/-- Whether a unit is the first half of a character. -/
def isHigh (u : Nat) : Bool := 0xD800 ≤ u && u < 0xDC00

/-- Whether a unit is the second half of a character. -/
def isLow (u : Nat) : Bool := 0xDC00 ≤ u && u < 0xE000

def join (high low : Nat) : Char :=
  Char.ofNat (0x10000 + (high - 0xD800) * 0x400 + (low - 0xDC00))

/-- Reads on from the first half of a character, if there is one. -/
def decodeFrom (order : ByteOrder) : Option Nat → List UInt8 → List Char
  | none, [] => []
  | some _, [] => [replacement]
  | _, [_] => [replacement]
  | none, a :: b :: rest =>
    let u := unit order a b
    if isHigh u then decodeFrom order (some u) rest
    else if isLow u then replacement :: decodeFrom order none rest
    else Char.ofNat u :: decodeFrom order none rest
  | some high, a :: b :: rest =>
    let u := unit order a b
    if isLow u then join high u :: decodeFrom order none rest
    else if isHigh u then replacement :: decodeFrom order (some u) rest
    else replacement :: Char.ofNat u :: decodeFrom order none rest

/-- The text of bytes in UTF-16. -/
def decode (order : ByteOrder) (bs : List UInt8) : List Char :=
  decodeFrom order none bs

end Utf16

end AirspaceRaster.Text
