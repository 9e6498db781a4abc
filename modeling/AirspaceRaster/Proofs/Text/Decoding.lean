import AirspaceRaster.Text.Decoding

/-! Reading a text whose character set is not known. What is valid UTF-8 is read as what it encodes. Anything else
    becomes one character for each byte, unless it starts with a mark of its own: then it is read in the encoding
    that the mark names, and the text is shorter than the bytes. -/

namespace AirspaceRaster.Text

variable {bs rest : List UInt8} {s : String} {b : UInt8} {i : Nat}

/-! ### Valid UTF-8 -/

/-- The bytes of a text in UTF-8. -/
def utf8Bytes (s : String) : List UInt8 := s.toList.flatMap String.utf8EncodeChar

def IsUtf8 (bs : List UInt8) : Prop := ∃ s, utf8Bytes s = bs

theorem toByteArray_utf8Bytes (s : String) : (utf8Bytes s).toByteArray = s.toByteArray := by
  rw [← String.utf8Encode_toList, List.utf8Encode, utf8Bytes]

theorem utf8?_eq_some_iff : utf8? bs = some s ↔ utf8Bytes s = bs := by
  have hbytes : s.toByteArray = ⟨bs.toArray⟩ ↔ utf8Bytes s = bs := by
    rw [← toByteArray_utf8Bytes, ByteArray.ext_iff, List.data_toByteArray]
    exact ⟨List.toArray_inj, congrArg _⟩
  rw [← hbytes, utf8?, String.fromUTF8?]
  constructor
  · intro h
    split at h
    · rw [← Option.some.inj h]
      rfl
    · cases h
  · intro h
    rw [← h, dif_pos s.isValidUTF8]
    rfl

theorem utf8?_eq_none_iff : utf8? bs = none ↔ ¬IsUtf8 bs := by
  rw [Option.eq_none_iff_forall_ne_some]
  simp only [ne_eq, utf8?_eq_some_iff, IsUtf8, not_exists]

/-- The bytes `0xFE` and `0xFF` are in no text in UTF-8. -/
theorem toNat_lt_of_mem_utf8Bytes (hb : b ∈ utf8Bytes s) : b.toNat < 0xFE := by
  obtain ⟨c, -, hb⟩ := List.mem_flatMap.mp hb
  rw [String.utf8EncodeChar.eq_1] at hb
  split at hb
  · simp only [List.mem_singleton] at hb
    subst hb
    simp only [UInt8.toNat_ofNat']
    omega
  split at hb
  · simp only [List.mem_cons, List.not_mem_nil, or_false] at hb
    rcases hb with rfl | rfl <;> simp only [UInt8.toNat_ofNat'] <;> omega
  split at hb
  · simp only [List.mem_cons, List.not_mem_nil, or_false] at hb
    rcases hb with rfl | rfl | rfl <;> simp only [UInt8.toNat_ofNat'] <;> omega
  · simp only [List.mem_cons, List.not_mem_nil, or_false] at hb
    rcases hb with rfl | rfl | rfl | rfl <;> simp only [UInt8.toNat_ofNat'] <;> omega

theorem not_isUtf8_of_mem (hb : b ∈ bs) (h : 0xFE ≤ b.toNat) : ¬IsUtf8 bs := by
  rintro ⟨s, rfl⟩
  have := toNat_lt_of_mem_utf8Bytes hb
  omega

/-! ### Marks -/

/-- The byte order mark of UTF-8. -/
def utf8Mark : List UInt8 := [0xEF, 0xBB, 0xBF]

/-- Some bytes and what is left of them without one mark of UTF-8 at their start. -/
def Unmarked (bs rest : List UInt8) : Prop :=
  bs = utf8Mark ++ rest ∨ ¬utf8Mark <+: bs ∧ bs = rest

def Utf16.mark : ByteOrder → List UInt8
  | .littleEndian => [0xFF, 0xFE]
  | .bigEndian => [0xFE, 0xFF]

def StartsWithMark (bs : List UInt8) : Prop := utf8Mark <+: bs ∨ ∃ order, Utf16.mark order <+: bs

theorem withoutMark_of_unmarked (h : Unmarked bs rest) : withoutMark bs = rest := by
  rcases h with rfl | ⟨hmark, rfl⟩
  · rfl
  · unfold withoutMark
    split
    · exact absurd (List.prefix_append utf8Mark _) hmark
    · rfl

theorem length_utf8_decodeFrom_le (pending : Option Utf8.Pending) (bs : List UInt8) :
    (Utf8.decodeFrom pending bs).length ≤ bs.length + pending.toList.length := by
  fun_induction Utf8.decodeFrom pending bs <;> simp_all <;> omega

theorem length_utf16_decodeFrom_le (order : Utf16.ByteOrder) (high : Option Nat) (bs : List UInt8) :
    (Utf16.decodeFrom order high bs).length ≤ bs.length + high.toList.length := by
  fun_induction Utf16.decodeFrom order high bs <;> simp_all <;> omega

theorem fallback_utf16 (order : Utf16.ByteOrder) (bs : List UInt8) :
    fallback (Utf16.mark order ++ bs) = Utf16.decode order bs := by
  cases order <;> rfl

theorem length_fallback_lt (h : StartsWithMark bs) : (fallback bs).length < bs.length := by
  rcases h with ⟨rest, rfl⟩ | ⟨order, rest, rfl⟩
  · have := length_utf8_decodeFrom_le none rest
    show (Utf8.decode rest).length < rest.length + 3
    rw [Utf8.decode]
    simp only [Option.toList_none, List.length_nil] at this
    omega
  · have := length_utf16_decodeFrom_le order none rest
    have hmark : (Utf16.mark order).length = 2 := by cases order <;> rfl
    rw [fallback_utf16, Utf16.decode, List.length_append, hmark]
    simp only [Option.toList_none, List.length_nil] at this
    omega

theorem fallback_of_not_startsWithMark (h : ¬StartsWithMark bs) : fallback bs = bs.map Windows1252.char := by
  rw [StartsWithMark, not_or, not_exists] at h
  obtain ⟨hutf8, hutf16⟩ := h
  unfold fallback
  split
  · exact absurd (List.prefix_append utf8Mark _) hutf8
  · exact absurd (List.prefix_append (Utf16.mark .littleEndian) _) (hutf16 .littleEndian)
  · exact absurd (List.prefix_append (Utf16.mark .bigEndian) _) (hutf16 .bigEndian)
  · rfl

theorem fallback_eq_map_iff : fallback bs = bs.map Windows1252.char ↔ ¬StartsWithMark bs := by
  refine ⟨?_, fallback_of_not_startsWithMark⟩
  intro h hmark
  have hlt := length_fallback_lt hmark
  rw [h, List.length_map] at hlt
  exact Nat.lt_irrefl _ hlt

/-! ### UTF-16 -/

namespace Utf16

variable {u : Nat}

/-- The units of a character: its number, or two halves of it. -/
def units (c : Char) : List Nat :=
  if c.toNat < 0x10000 then [c.toNat]
  else [0xD800 + (c.toNat - 0x10000) / 0x400, 0xDC00 + (c.toNat - 0x10000) % 0x400]

def unitBytes : ByteOrder → Nat → List UInt8
  | .littleEndian, u => [UInt8.ofNat (u % 256), UInt8.ofNat (u / 256)]
  | .bigEndian, u => [UInt8.ofNat (u / 256), UInt8.ofNat (u % 256)]

/-- The bytes of a text in UTF-16, without a mark. -/
def encode (order : ByteOrder) (cs : List Char) : List UInt8 :=
  cs.flatMap fun c => (units c).flatMap (unitBytes order)

theorem exists_unitBytes_eq (order : ByteOrder) (hu : u < 0x10000) :
    ∃ a b, unitBytes order u = [a, b] ∧ unit order a b = u := by
  cases order
  · refine ⟨_, _, rfl, ?_⟩
    simp only [unit, UInt8.toNat_ofNat']
    omega
  · refine ⟨_, _, rfl, ?_⟩
    simp only [unit, UInt8.toNat_ofNat']
    omega

theorem isHigh_eq_false (c : Char) : isHigh c.toNat = false := by
  have hc := c.valid
  simp only [isHigh, Char.toNat, Bool.and_eq_false_iff, decide_eq_false_iff_not]
  omega

theorem isLow_eq_false (c : Char) : isLow c.toNat = false := by
  have hc := c.valid
  simp only [isLow, Char.toNat, Bool.and_eq_false_iff, decide_eq_false_iff_not]
  omega

theorem decodeFrom_append_units (order : ByteOrder) (c : Char) (rest : List UInt8) :
    decodeFrom order none ((units c).flatMap (unitBytes order) ++ rest) = c :: decodeFrom order none rest := by
  have hmax : c.toNat < 0x110000 := by
    have hc := c.valid
    simp only [Char.toNat]
    omega
  by_cases hsmall : c.toNat < 0x10000
  · obtain ⟨a, b, hbytes, hunit⟩ := exists_unitBytes_eq order hsmall
    simp only [units, if_pos hsmall, List.flatMap_cons, List.flatMap_nil, List.append_nil, hbytes, List.cons_append,
      List.nil_append, decodeFrom, hunit, isHigh_eq_false, isLow_eq_false, Bool.false_eq_true, if_false,
      Char.ofNat_toNat]
  · obtain ⟨high, hhigh⟩ : ∃ high, high = 0xD800 + (c.toNat - 0x10000) / 0x400 := ⟨_, rfl⟩
    obtain ⟨low, hlow⟩ : ∃ low, low = 0xDC00 + (c.toNat - 0x10000) % 0x400 := ⟨_, rfl⟩
    obtain ⟨a, b, hbytes, hunit⟩ := exists_unitBytes_eq order (u := high) (by omega)
    obtain ⟨a', b', hbytes', hunit'⟩ := exists_unitBytes_eq order (u := low) (by omega)
    have hishigh : isHigh high = true := by
      simp only [isHigh, Bool.and_eq_true, decide_eq_true_eq]
      omega
    have hislow : isLow low = true := by
      simp only [isLow, Bool.and_eq_true, decide_eq_true_eq]
      omega
    have hjoin : join high low = c := by
      have hnat : 0x10000 + (high - 0xD800) * 0x400 + (low - 0xDC00) = c.toNat := by omega
      rw [join, hnat, Char.ofNat_toNat]
    simp only [units, if_neg hsmall, ← hhigh, ← hlow, List.flatMap_cons, List.flatMap_nil, List.append_nil, hbytes,
      hbytes', List.cons_append, List.nil_append, decodeFrom, hunit, hunit', hishigh, hislow, if_true, hjoin]

theorem decode_encode (order : ByteOrder) (cs : List Char) : decode order (encode order cs) = cs := by
  induction cs with
  | nil => rfl
  | cons c cs ih =>
    rw [decode, encode, List.flatMap_cons, decodeFrom_append_units]
    rw [decode, encode] at ih
    rw [ih]

end Utf16

/-! ### The text -/

theorem decode_of_isUtf8 (h : Unmarked bs rest) (hs : utf8Bytes s = rest) : decode bs = s := by
  rw [decode, withoutMark_of_unmarked h]
  simp only [utf8?_eq_some_iff.mpr hs]

theorem decode_of_not_isUtf8 (h : Unmarked bs rest) (hrest : ¬IsUtf8 rest) :
    decode bs = String.ofList (fallback rest) := by
  rw [decode, withoutMark_of_unmarked h]
  simp only [utf8?_eq_none_iff.mpr hrest]

theorem not_isUtf8_utf16 (order : Utf16.ByteOrder) (bs : List UInt8) : ¬IsUtf8 (Utf16.mark order ++ bs) := by
  cases order
  · exact not_isUtf8_of_mem List.mem_cons_self (by decide : 0xFE ≤ (0xFF : UInt8).toNat)
  · exact not_isUtf8_of_mem List.mem_cons_self (by decide : 0xFE ≤ (0xFE : UInt8).toNat)

theorem char_of_lt (hb : b.toNat < 0x80) : Windows1252.char b = Char.ofNat b.toNat := by
  rw [Windows1252.char, if_neg (by omega)]

/-- What is left behind a mark of UTF-8 is read as UTF-8 if it can be. If not, it is one character for each byte,
    in which the ASCII bytes stay in place, exactly if it does not start with a mark itself. Behind a mark of UTF-16
    what is encoded in UTF-16 is read. -/
theorem decode_of_unmarked (h : Unmarked bs rest) :
    (∀ s, utf8Bytes s = rest → decode bs = s) ∧
    (¬IsUtf8 rest → ((decode bs).toList = rest.map Windows1252.char ↔ ¬StartsWithMark rest)) ∧
    (¬IsUtf8 rest → ¬StartsWithMark rest → ∀ (i : Nat) (b : UInt8), rest[i]? = some b → b.toNat < 0x80 →
      (decode bs).toList[i]? = some (Char.ofNat b.toNat)) ∧
    ∀ order s, rest = Utf16.mark order ++ Utf16.encode order s.toList → decode bs = s := by
  refine ⟨fun s => decode_of_isUtf8 h, ?_, ?_, ?_⟩
  · intro hrest
    rw [decode_of_not_isUtf8 h hrest, String.toList_ofList]
    exact fallback_eq_map_iff
  · intro hrest hmark i b hi hb
    rw [decode_of_not_isUtf8 h hrest, String.toList_ofList, fallback_of_not_startsWithMark hmark, List.getElem?_map,
      hi, Option.map_some, char_of_lt hb]
  · rintro order s rfl
    rw [decode_of_not_isUtf8 h (not_isUtf8_utf16 order _), fallback_utf16, Utf16.decode_encode, String.ofList_toList]

/-- An `H` and an `é` of Windows-1252 behind a mark. -/
def markedLatin : List UInt8 := [0xEF, 0xBB, 0xBF, 0x48, 0xE9]

theorem decode_of_unmarked_latin : Unmarked markedLatin [0x48, 0xE9] ∧ ¬IsUtf8 [0x48, 0xE9] ∧
    ¬StartsWithMark [0x48, 0xE9] ∧ (decode markedLatin).toList = ['H', 'é'] := by
  have hbytes : Unmarked markedLatin [0x48, 0xE9] := Or.inl rfl
  have hrest : ¬IsUtf8 [0x48, 0xE9] := utf8?_eq_none_iff.mp (by decide +kernel)
  have hmark : ¬StartsWithMark [0x48, 0xE9] := by
    rintro (hmark | ⟨order, hmark⟩)
    · revert hmark
      decide
    · revert hmark
      cases order <;> decide
  exact ⟨hbytes, hrest, hmark, ((decode_of_unmarked hbytes).2.1 hrest).mpr hmark⟩

/-- An `A` in UTF-16 behind its mark, which would be `ÿþA` and a zero in Windows-1252. -/
def wideA : List UInt8 := [0xFF, 0xFE, 0x41, 0x00]

theorem decode_wideA_ne : Unmarked wideA wideA ∧ ¬IsUtf8 wideA ∧ decode wideA = "A" ∧
    (decode wideA).toList ≠ wideA.map Windows1252.char := by
  have hbytes : Unmarked wideA wideA := Or.inr ⟨by decide, rfl⟩
  have hrest : ¬IsUtf8 wideA := not_isUtf8_utf16 .littleEndian [0x41, 0x00]
  have htext : decode wideA = "A" := decode_of_not_isUtf8 hbytes hrest
  refine ⟨hbytes, hrest, htext, ?_⟩
  rw [htext]
  decide

end AirspaceRaster.Text
