import AirspaceRaster.Raster.Tile
import Mathlib.Data.List.Basic

/-! The names of the files. An integer can be read back from its text, whatever width that is filled up to, and
    the letter between the two integers of a tile is in neither text. So different tiles have different files. -/

namespace AirspaceRaster

namespace Text

variable {width zeros : Nat} {n m : Int} {c : Char}

/-- The characters of an integer that is filled up with some zeros. -/
def signedDigits (zeros : Nat) (n : Int) : List Char :=
  (if n < 0 then ['-'] else []) ++ (List.replicate zeros '0' ++ Nat.toDigits 10 n.natAbs)

theorem toList_zeroFilled (width : Nat) (n : Int) : ∃ zeros, (zeroFilled width n).toList = signedDigits zeros n := by
  refine ⟨width - (if n < 0 then "-" else "").length - (toString n.natAbs).length, ?_⟩
  rw [zeroFilled, String.toList_append, String.toList_append, String.toList_ofList, Nat.toString_eq_ofList_toDigits,
    String.toList_ofList, List.append_assoc, signedDigits]
  split <;> rfl

/-- The integer that some characters stand for. -/
def readSigned : List Char → Int
  | '-' :: digits => -(Nat.ofDigitChars 10 digits 0 : Int)
  | digits => (Nat.ofDigitChars 10 digits 0 : Int)

theorem readSigned_of_not_minus {cs : List Char} (h : '-' ∉ cs) : readSigned cs = Nat.ofDigitChars 10 cs 0 := by
  rw [readSigned]
  rintro digits rfl
  exact h List.mem_cons_self

theorem ofDigitChars_filled (zeros k : Nat) :
    Nat.ofDigitChars 10 (List.replicate zeros '0' ++ Nat.toDigits 10 k) 0 = k := by
  rw [Nat.ofDigitChars_append, Nat.ofDigitChars_replicate_zero, Nat.mul_zero, Nat.ofDigitChars_ten_toDigits]

theorem isDigit_of_mem_filled {k : Nat} (h : c ∈ List.replicate zeros '0' ++ Nat.toDigits 10 k) : c.isDigit = true := by
  rcases List.mem_append.mp h with hzero | hdigit
  · rw [List.eq_of_mem_replicate hzero]
    rfl
  · exact Nat.isDigit_of_mem_toDigits (by decide) (by decide) hdigit

/-- An integer is read back from its text, however many zeros that is filled up with. -/
theorem readSigned_signedDigits (zeros : Nat) (n : Int) : readSigned (signedDigits zeros n) = n := by
  rw [signedDigits]
  split
  · rw [List.singleton_append, readSigned, ofDigitChars_filled]
    omega
  · have hminus : '-' ∉ List.replicate zeros '0' ++ Nat.toDigits 10 n.natAbs := fun h =>
      nomatch isDigit_of_mem_filled h
    rw [List.nil_append, readSigned_of_not_minus hminus, ofDigitChars_filled]
    omega

theorem zeroFilled_injective (width : Nat) (h : (zeroFilled width n).toList = (zeroFilled width m).toList) : n = m := by
  obtain ⟨_, hn⟩ := toList_zeroFilled width n
  obtain ⟨_, hm⟩ := toList_zeroFilled width m
  rw [← readSigned_signedDigits _ n, ← hn, h, hm, readSigned_signedDigits]

theorem eq_or_isDigit_of_mem_zeroFilled (h : c ∈ (zeroFilled width n).toList) : c = '-' ∨ c.isDigit = true := by
  obtain ⟨_, hn⟩ := toList_zeroFilled width n
  rw [hn, signedDigits] at h
  rcases List.mem_append.mp h with hsign | hdigit
  · split at hsign
    · exact Or.inl (List.mem_singleton.mp hsign)
    · cases hsign
  · exact Or.inr (isDigit_of_mem_filled hdigit)

end Text

namespace Tile
open Text (zeroFilled)

variable {t u : Tile}

theorem letter_notMem_zeroFilled (width : Nat) (n : Int) : 'E' ∉ (zeroFilled width n).toList := fun h => by
  rcases Text.eq_or_isDigit_of_mem_zeroFilled h with hminus | hdigit
  · cases hminus
  · cases hdigit

theorem toList_fileName (t : Tile) :
    t.fileName.toList =
      'N' :: (zeroFilled 2 t.lat).toList ++ 'E' :: ((zeroFilled 3 t.lon).toList ++ ".air".toList) := by
  simp only [fileName, String.toList_append, List.append_assoc]
  rfl

/-- Different tiles have different files, south and west of zero as well. -/
theorem eq_of_fileName_eq (h : t.fileName = u.fileName) : t = u := by
  have hchars := congrArg String.toList h
  rw [toList_fileName, toList_fileName] at hchars
  have hlat : 'E' ∉ 'N' :: (zeroFilled 2 t.lat).toList :=
    List.not_mem_cons_of_ne_of_not_mem (by decide) (letter_notMem_zeroFilled 2 t.lat)
  have hlon : 'E' ∉ (zeroFilled 3 t.lon).toList ++ ".air".toList := fun hmem =>
    (List.mem_append.mp hmem).elim (letter_notMem_zeroFilled 3 t.lon) (by decide)
  obtain ⟨hlats, -, hlons⟩ := (List.append_cons_inj_of_notMem hlat hlon).mp hchars
  have hlats := Text.zeroFilled_injective 2 (List.cons.inj hlats).2
  have hlons := Text.zeroFilled_injective 3 (List.append_cancel_right hlons)
  cases t
  cases u
  cases hlats
  cases hlons
  rfl

end Tile

end AirspaceRaster
