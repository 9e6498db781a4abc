/-! Sizes of buffers and places in them are counted with 64 bits, so they go round at two to the power of
    64: a size that is too large for them counts as a smaller one. -/

namespace AirspaceRaster.Word

/-- The number of values of 64 bits. -/
def limit : Nat := 18446744073709551616

/-- An integer as 64 bits hold it. -/
def ofInt (i : Int) : Nat := (i % limit).toNat

theorem ofInt_natCast {n : Nat} (h : n < limit) : ofInt n = n := by
  simp only [ofInt, limit] at *; omega

end AirspaceRaster.Word
