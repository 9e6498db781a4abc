import AirspaceRaster.Proofs.Band.Compaction
import AirspaceRaster.Proofs.Level.Ceiling
import AirspaceRaster.Raster.PointRecord

/-! The used levels of a record. A level is read back as used if the value of its ceiling is not zero, so
    the levels that were written are the used ones only if none of their airspaces ends below 125 feet. -/

namespace AirspaceRaster
open HeightBands

section Used
variable {R : Type} [Scalar R] {table : AirspaceTable R} {config : LevelConfig R} {b : HeightBands table}
  {v : AirspaceVector table} {point : Point R} {vs : List (AirspaceVector table)} {record : List UInt8}

/-- Whether the level at some place of a record is read back as used. -/
def Record.UsedAt (config : LevelConfig R) (record : List UInt8) (i : Nat) : Prop :=
  ∃ l, (Record.decode config record)[i]? = some (some l)

theorem LevelDescriptor.decode?_padding : (padding).decode? config = none := rfl

theorem LevelDescriptor.isSome_decode?_encode :
    ((encode config v).decode? config).isSome = true ↔ Level.altitudeValue v.ceiling config.altitudeStep ≠ 0 := by
  have hvalue : Byte.value (encode config v).ceiling = Level.altitudeValue v.ceiling config.altitudeStep :=
    Byte.value_pack (Whole.upTo_le _ _) _
  rw [decode?, isEmpty, hvalue]
  split_ifs with h <;> simpa using h

namespace PointRecord

theorem encode_eq_ok_iff (hb : levels config point vs = .ok b) :
    encode config point vs = .ok record ↔ config.recordSize < bufferLimit ∧ ofBands config b = record := by
  rw [encode, hb, pack]
  split_ifs with hsize
  · simp [hsize]
  · simp [hsize]

theorem decode_ofBands : Record.decode config (ofBands config b) =
    (b.vectors.take config.slots).map (fun v => (LevelDescriptor.encode config v).decode? config) ++
      List.replicate (config.slots - b.size) none := by
  simp only [Record.decode, ofBands, Record.descriptors_ofDescriptors, descriptors, List.map_append,
    List.map_map, List.map_replicate, LevelDescriptor.decode?_padding]
  rfl

theorem usedAt_ofBands_iff {i : Nat} : Record.UsedAt config (ofBands config b) i ↔
    i < config.slots ∧ ∃ v, b.vectors[i]? = some v ∧ Level.altitudeValue v.ceiling config.altitudeStep ≠ 0 := by
  simp only [Record.UsedAt, decode_ofBands, List.getElem?_append, ← LevelDescriptor.isSome_decode?_encode,
    Option.isSome_iff_exists]
  split
  · rename_i hi
    rw [List.length_map, List.length_take, lt_min_iff] at hi
    simp only [List.getElem?_map, List.getElem?_take_of_lt hi.1, Option.map_eq_some_iff]
    constructor
    · rintro ⟨l, v, hv, hl⟩
      exact ⟨hi.1, v, hv, l, hl⟩
    · rintro ⟨-, v, hv, l, hl⟩
      exact ⟨l, v, hv, hl⟩
  · -- Behind the bands that were written there is only padding.
    rename_i hi
    rw [List.length_map, List.length_take, lt_min_iff] at hi
    refine iff_of_false ?_ ?_
    · rintro ⟨l, hl⟩
      simp [List.getElem?_replicate] at hl
    · rintro ⟨hslots, v, hv, -⟩
      exact hi ⟨hslots, (List.getElem?_eq_some_iff.mp hv).1⟩

/-- The used levels are the ones of the bands if the record has room for all bands and none of their
    ceilings is rounded to zero. -/
theorem usedAt_ofBands_iff_lt_size : (∀ i, Record.UsedAt config (ofBands config b) i ↔ i < b.size) ↔
    b.size ≤ config.slots ∧ ∀ v ∈ b.vectors, Level.altitudeValue v.ceiling config.altitudeStep ≠ 0 := by
  have hlength : b.vectors.length = b.size := List.length_map _
  simp only [usedAt_ofBands_iff]
  constructor
  · intro hused
    constructor
    · by_contra! hroom
      exact lt_irrefl _ ((hused config.slots).mpr hroom).1
    · intro v hv
      obtain ⟨i, hi, rfl⟩ := List.mem_iff_getElem.mp hv
      obtain ⟨-, w, hw, hne⟩ := (hused i).mpr (hlength ▸ hi)
      rw [List.getElem?_eq_getElem hi, Option.some_inj] at hw
      rwa [hw]
  · rintro ⟨hroom, hne⟩ i
    constructor
    · rintro ⟨-, v, hv, -⟩
      exact hlength ▸ (List.getElem?_eq_some_iff.mp hv).1
    · intro hi
      have hi' : i < b.vectors.length := hlength.symm ▸ hi
      exact ⟨by omega, _, List.getElem?_eq_getElem hi', hne _ (List.getElem_mem hi')⟩

end PointRecord

end Used

namespace PointRecord

variable {table : AirspaceTable Float} {config : LevelConfig Float} {b : HeightBands table} {point : Point Float}
  {vs : List (AirspaceVector table)} {record : List UInt8}

/-- With steps of 250 feet a level is read back as used if a band was written there whose airspace ends at
    125 feet or higher, so the used levels are the ones of the bands only if this holds of every band. -/
theorem usedAt_iff (hstep : config.altitudeStep = LevelConfig.standard.altitudeStep)
    (hb : levels config point vs = .ok b) (hr : encode config point vs = .ok record) :
    (∀ i, Record.UsedAt config record i ↔
      i < config.slots ∧ ∃ v, b.vectors[i]? = some v ∧ 125 ≤ v.ceiling.feet) ∧
    ((∀ i, Record.UsedAt config record i ↔ i < b.size) ↔
      b.size ≤ config.slots ∧ ∀ v ∈ b.vectors, 125 ≤ v.ceiling.feet) := by
  have hvalue : ∀ v : AirspaceVector table,
      Level.altitudeValue v.ceiling config.altitudeStep ≠ 0 ↔ 125 ≤ v.ceiling.feet := fun v => by
    rw [hstep]
    exact (Level.altitudeValue_eq_zero_iff v.ceiling).not.trans not_lt
  obtain ⟨-, rfl⟩ := (encode_eq_ok_iff hb).mp hr
  constructor
  · intro i
    simp only [usedAt_ofBands_iff, hvalue]
  · simp only [usedAt_ofBands_iff_lt_size, hvalue]

/-- An airspace that ends at 100 feet and one above it. -/
def lowAndHigh : List (AirspaceVector (.ofBands [(-1000, 100), (100, 5000)] : AirspaceTable Float)) :=
  [.measured ⟨0, by decide⟩ 500 90 false, .measured ⟨1, by decide⟩ 1000 180 false]

theorem usedAt_iff_lowAndHigh : ∃ b record,
    levels .standard ⟨48.7, 9.15⟩ lowAndHigh = .ok b ∧
    encode .standard ⟨48.7, 9.15⟩ lowAndHigh = .ok record ∧
    (∀ i, Record.UsedAt (R := Float) .standard record i ↔
      i < 5 ∧ ∃ v, b.vectors[i]? = some v ∧ 125 ≤ v.ceiling.feet) ∧
    ((∀ i, Record.UsedAt (R := Float) .standard record i ↔ i < b.size) ↔
      b.size ≤ 5 ∧ ∀ v ∈ b.vectors, 125 ≤ v.ceiling.feet) := by
  have hb : levels .standard ⟨48.7, 9.15⟩ lowAndHigh = .ok _ :=
    compact_eq_ok_iff.mpr ⟨rfl, by decide +kernel⟩
  have hr := (encode_eq_ok_iff hb).mpr ⟨by decide, rfl⟩
  exact ⟨_, _, hb, hr, usedAt_iff rfl hb hr⟩

/-- The level of the lower one is read back as padding, in front of a level that is used. -/
theorem exists_gap : (∀ v ∈ lowAndHigh, v.floor < v.ceiling) ∧ ∃ b record,
    levels .standard ⟨48.7, 9.15⟩ lowAndHigh = .ok b ∧
    encode .standard ⟨48.7, 9.15⟩ lowAndHigh = .ok record ∧
    ¬∀ i, Record.UsedAt (R := Float) .standard record i ↔ i < b.size := by
  have hb : levels .standard ⟨48.7, 9.15⟩ lowAndHigh = .ok _ :=
    compact_eq_ok_iff.mpr ⟨rfl, by decide +kernel⟩
  refine ⟨by decide, _, _, hb, (encode_eq_ok_iff hb).mpr ⟨by decide, rfl⟩, ?_⟩
  rw [usedAt_ofBands_iff_lt_size]
  decide +kernel

end PointRecord

end AirspaceRaster
