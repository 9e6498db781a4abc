import AirspaceRaster.Json.Number

/-! The tokens of a JSON text. The text is read character by character, and between two characters the
    reader is in one of a few modes. -/

namespace AirspaceRaster.Json

/-- A piece of a string: a character, or a half of one that an escape stands for. -/
inductive Piece where
  | char (c : Char)
  | surrogate (unit : Nat)
  deriving DecidableEq, Repr

/-- A string as it stands in the text; it may hold halves of characters. -/
abbrev Pieces := List Piece

/-- The text of a string; there is none if a half of a character stands alone. -/
def Pieces.text? : Pieces → Option (List Char)
  | [] => some []
  | .char c :: rest => (Pieces.text? rest).map (c :: ·)
  | .surrogate high :: .surrogate low :: rest =>
    if high < 0xDC00 ∧ 0xDC00 ≤ low then
      (Pieces.text? rest).map
        (Char.ofNat (0x10000 + (high - 0xD800) * 0x400 + (low - 0xDC00)) :: ·)
    else none
  | .surrogate _ :: _ => none

inductive Token where
  | openObject
  | closeObject
  | openArray
  | closeArray
  | comma
  | colon
  | string (s : Pieces)
  | number (n : Number)
  | true
  | false
  | null
  deriving DecidableEq, Repr

/-- The word that a text consists of. -/
def word? (cs : List Char) : Option Token :=
  if cs = "true".toList then some .true
  else if cs = "false".toList then some .false
  else if cs = "null".toList then some .null
  else none

def hexDigit? (c : Char) : Option Nat :=
  if c.isDigit then some (c.toNat - '0'.toNat)
  else if 'a' ≤ c ∧ c ≤ 'f' then some (c.toNat - 'a'.toNat + 10)
  else if 'A' ≤ c ∧ c ≤ 'F' then some (c.toNat - 'A'.toNat + 10)
  else none

/-- What the reader is in the middle of. What it has read is kept in reverse. -/
inductive Mode where
  | between
  | word (read : List Char)
  | number (read : List Char)
  | string (read : Pieces)
  /-- After a backslash. -/
  | escape (read : Pieces)
  /-- Within the four digits of a code unit, with the number of digits still to come. -/
  | code (read : Pieces) (unit missing : Nat)

/-- The piece of a code unit. -/
def Piece.ofUnit (unit : Nat) : Piece :=
  if 0xD800 ≤ unit ∧ unit < 0xE000 then .surrogate unit else .char (Char.ofNat unit)

/-- The character that stands behind a backslash. -/
def escaped? : Char → Option Char
  | '"' => some '"'
  | '\\' => some '\\'
  | '/' => some '/'
  | 'b' => some '\x08'
  | 'f' => some '\x0c'
  | 'n' => some '\n'
  | 'r' => some '\r'
  | 't' => some '\t'
  | _ => none

/-- Whether a character can be part of a number. -/
def isNumeric (c : Char) : Bool :=
  c.isDigit || c == '-' || c == '+' || c == '.' || c == 'e' || c == 'E'

/-- The token or the mode that a character between two tokens starts. -/
def start? : Char → Option (List Token × Mode)
  | '{' => some ([.openObject], .between)
  | '}' => some ([.closeObject], .between)
  | '[' => some ([.openArray], .between)
  | ']' => some ([.closeArray], .between)
  | ',' => some ([.comma], .between)
  | ':' => some ([.colon], .between)
  | '"' => some ([], .string [])
  | c =>
    if c = ' ' ∨ c = '\n' ∨ c = '\t' ∨ c = '\r' then some ([], .between)
    else if c = '-' ∨ c.isDigit then some ([], .number [c])
    else if c.isLower then some ([], .word [c])
    else none

/-- The tokens that a mode leaves at a character that does not belong to it, and how this character is
    read. -/
def leave? (tokens : List Token) (c : Char) : Option (List Token × Mode) :=
  (start? c).map fun (more, mode) => (tokens ++ more, mode)

/-- One character: the tokens it completes and the mode after it. -/
def step? (mode : Mode) (c : Char) : Option (List Token × Mode) :=
  match mode with
  | .between => start? c
  | .word read =>
    if c.isLower then some ([], .word (c :: read))
    else (word? read.reverse).bind fun t => leave? [t] c
  | .number read =>
    if isNumeric c then some ([], .number (c :: read))
    else (Number.read? read.reverse).bind fun n => leave? [.number n] c
  | .string read =>
    if c = '"' then some ([.string read.reverse], .between)
    else if c = '\\' then some ([], .escape read)
    else if c.toNat < 0x20 then none
    else some ([], .string (.char c :: read))
  | .escape read =>
    if c = 'u' then some ([], .code read 0 4)
    else (escaped? c).map fun d => ([], .string (.char d :: read))
  | .code read unit missing =>
    (hexDigit? c).map fun d =>
      let unit := unit * 16 + d
      if missing ≤ 1 then ([], .string (Piece.ofUnit unit :: read))
      else ([], .code read unit (missing - 1))

def finish? : Mode → Option (List Token)
  | .between => some []
  | .word read => (word? read.reverse).map ([·])
  | .number read => (Number.read? read.reverse).map fun n => [.number n]
  | _ => none

/-- The tokens of the rest of a text, behind the ones read so far, which are kept in reverse. -/
def tokensFrom? (mode : Mode) (read : List Token) : List Char → Option (List Token)
  | [] => (finish? mode).map fun last => (last.reverse ++ read).reverse
  | c :: cs =>
    match step? mode c with
    | none => none
    | some (new, mode) => tokensFrom? mode (new.reverse ++ read) cs

/-- The tokens of a text; none if some part of it is no token. -/
def tokens? (s : String) : Option (List Token) :=
  tokensFrom? .between [] s.toList

end AirspaceRaster.Json
