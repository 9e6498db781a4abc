import AirspaceRaster.Level.Descriptor

/-! What the bytes of a level tell apart. The bearings of one turn take the values below the number of
    steps in the turn, so a bearing byte with the flag for inside is farther away from every byte without
    it than the tolerance, unless the steps and the tolerance together fill the seven bits. -/

namespace AirspaceRaster

/-- A byte is made of its value and its flag. -/
theorem Byte.pack_value_flag (b : UInt8) : pack (value b) (flag b) = b := by
  rw [← UInt8.toNat_inj, toNat_pack (value_le b)]
  have hb := b.toNat_lt
  simp only [value, flag, decide_eq_true_eq]
  split <;> omega

namespace Level
variable {R : Type} [Scalar R] {bearing step : R} {inside : Bool} {slots : Int}

theorem bearingValue_lt (bearing : R) (hslots : bearingSlots step = .of slots) (hpos : 1 ≤ slots) :
    bearingValue bearing step < slots := by
  have hq : ∀ q : Int, 0 ≤ q % slots ∧ q % slots < slots := fun q =>
    ⟨Int.emod_nonneg q (by omega), Int.emod_lt_of_pos q (by omega)⟩
  rw [bearingValue, hslots]
  cases Scalar.nearest (bearing / step) with
  | of q =>
    have := hq q
    rw [Whole.modulo, if_neg (by omega)]
    simp only [Whole.upTo, Whole.saturate]
    omega
  | above => simpa [Whole.modulo, Whole.upTo, Whole.saturate] using by omega
  | below => simpa [Whole.modulo, Whole.upTo, Whole.saturate] using by omega
  | undefined => simpa [Whole.modulo, Whole.upTo, Whole.saturate] using by omega

theorem value_encodeAltitude (a : Altitude) (step : R) : Byte.value (encodeAltitude a step) = altitudeValue a step :=
  Byte.value_pack (Whole.upTo_le ..) _

theorem flag_encodeAltitude (a : Altitude) (step : R) : Byte.flag (encodeAltitude a step) = a.isAboveGround :=
  Byte.flag_pack (Whole.upTo_le ..) _

theorem reference_decodeAltitude (a : Altitude) (step : R) :
    (decodeAltitude (encodeAltitude a step) step).reference = a.reference := by
  rw [decodeAltitude, flag_encodeAltitude]
  obtain ⟨feet, _ | _⟩ := a <;> rfl

theorem isAboveGround_decodeAltitude (b : UInt8) (step : R) : (decodeAltitude b step).isAboveGround = Byte.flag b := by
  rw [decodeAltitude]
  cases Byte.flag b <;> rfl

theorem value_encodeBearing (bearing : R) (inside : Bool) (step : R) :
    Byte.value (encodeBearing bearing inside step) = bearingValue bearing step :=
  Byte.value_pack (Whole.upTo_le ..) _

theorem flag_encodeBearing (bearing : R) (inside : Bool) (step : R) :
    Byte.flag (encodeBearing bearing inside step) = inside :=
  Byte.flag_pack (Whole.upTo_le ..) _

theorem toNat_encodeBearing : (encodeBearing bearing inside step).toNat =
    bearingValue bearing step + if inside then 128 else 0 :=
  Byte.toNat_pack (Whole.upTo_le ..) inside

theorem toNat_encodeDistance {d : R} : (encodeDistance d step).toNat = distanceValue d step := by
  have hd : distanceValue d step ≤ 255 := Whole.upTo_le ..
  rw [encodeDistance, UInt8.toNat_ofNat']
  omega

end Level

namespace LevelDescriptor

theorem looksLike_iff {tolerance : UInt8} {d e : LevelDescriptor} : d.looksLike tolerance e = true ↔
    d.distance = e.distance ∧ ((d.bearing.toNat : Int) - e.bearing.toNat).natAbs ≤ tolerance.toNat := by
  simp only [looksLike, Bool.and_eq_true, beq_iff_eq, decide_eq_true_eq]
  refine and_congr_right fun _ => ?_
  omega

/-- What looks alike agrees on whether the point is inside, if no bearing outside comes within the tolerance of one
    inside. -/
theorem inside_eq_of_apart {R : Type} [Scalar R] {table : AirspaceTable R} {config : LevelConfig R}
    {v w : AirspaceVector table} (hapart : ∀ x y : R, Level.bearingValue x config.bearingStep +
      config.bearingTolerance.toNat < 128 + Level.bearingValue y config.bearingStep)
    (h : (encode config v).looksLike config.bearingTolerance (encode config w) = true) :
    v.inside = w.inside := by
  have hgap := (looksLike_iff.mp h).2
  have hvw := hapart v.bearing w.bearing
  have hwv := hapart w.bearing v.bearing
  rw [encode, encode, Level.toNat_encodeBearing, Level.toNat_encodeBearing] at hgap
  cases hvi : v.inside <;> cases hwi : w.inside
  · rfl
  · simp only [hvi, hwi, Bool.false_eq_true, if_true, if_false] at hgap
    omega
  · simp only [hvi, hwi, Bool.false_eq_true, if_true, if_false] at hgap
    omega
  · rfl

theorem inside_eq_of_looksLike {R : Type} [Scalar R] {table : AirspaceTable R} {config : LevelConfig R}
    {v w : AirspaceVector table} {slots : Int} (hslots : Level.bearingSlots config.bearingStep = .of slots)
    (hpos : 1 ≤ slots) (hroom : slots + config.bearingTolerance.toNat ≤ 128)
    (h : (encode config v).looksLike config.bearingTolerance (encode config w) = true) :
    v.inside = w.inside := by
  refine inside_eq_of_apart ?_ h
  intro x y
  have hx := Level.bearingValue_lt x hslots hpos
  omega

end LevelDescriptor

end AirspaceRaster
