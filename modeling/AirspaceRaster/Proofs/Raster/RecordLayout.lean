import AirspaceRaster.Proofs.Raster.UsedLevels

/-! How the levels of a point lie in its record. Every level has four bytes of its own, the lowest one comes
    first, and behind the highest one there are only zeros. As compaction keeps to the levels there is room for all
    of them, unless the levels are so many that their bytes cannot be counted: then the record is shorter than
    it should be, and the levels at its end are lost. -/

namespace AirspaceRaster

/-! ### Levels one behind the other -/

namespace Record
variable {ds es : List LevelDescriptor} {d : LevelDescriptor} {i : Nat}

theorem ofDescriptors_append : ofDescriptors (ds ++ es) = ofDescriptors ds ++ ofDescriptors es :=
  List.flatMap_append

theorem drop_ofDescriptors (hi : i ≤ ds.length) :
    (ofDescriptors ds).drop (i * levelSize) = ofDescriptors (ds.drop i) := by
  have hfront : (ofDescriptors (ds.take i)).length = i * levelSize := by
    rw [length_ofDescriptors, List.length_take, min_eq_left hi]
  calc (ofDescriptors ds).drop (i * levelSize)
      = (ofDescriptors (ds.take i) ++ ofDescriptors (ds.drop i)).drop (ofDescriptors (ds.take i)).length := by
        rw [hfront, ← ofDescriptors_append, List.take_append_drop]
    _ = ofDescriptors (ds.drop i) := List.drop_left

theorem take_drop_ofDescriptors (hd : ds[i]? = some d) :
    ((ofDescriptors ds).drop (i * levelSize)).take levelSize = d.toBytes := by
  obtain ⟨hi, rfl⟩ := List.getElem?_eq_some_iff.mp hd
  rw [drop_ofDescriptors (le_of_lt hi), List.drop_eq_getElem_cons hi]
  rfl

theorem eq_zero_of_mem_padding {n : Nat} {byte : UInt8}
    (h : byte ∈ ofDescriptors (List.replicate n LevelDescriptor.padding)) : byte = 0 := by
  obtain ⟨d, hd, hbyte⟩ := List.mem_flatMap.mp h
  obtain rfl := List.eq_of_mem_replicate hd
  simpa [LevelDescriptor.padding, LevelDescriptor.toBytes] using hbyte

end Record

namespace PointRecord
open HeightBands

variable {R : Type} [Scalar R] {table : AirspaceTable R} {config : LevelConfig R} {b : HeightBands table}
  {v : AirspaceVector table} {point : Point R} {vs : List (AirspaceVector table)} {record : List UInt8} {i : Nat}

theorem getElem?_descriptors (hi : i < config.slots) (hv : b.vectors[i]? = some v) :
    (descriptors config b)[i]? = some (LevelDescriptor.encode config v) := by
  have hmap : ((b.vectors.take config.slots).map (LevelDescriptor.encode config))[i]? =
      some (LevelDescriptor.encode config v) := by
    rw [List.getElem?_map, List.getElem?_take_of_lt hi, hv, Option.map_some]
  rw [descriptors, List.getElem?_append_left (List.getElem?_eq_some_iff.mp hmap).1, hmap]

theorem eq_zero_of_mem_drop_ofBands {byte : UInt8}
    (h : byte ∈ (ofBands config b).drop (b.size * levelSize)) : byte = 0 := by
  have hlength : b.vectors.length = b.size := List.length_map _
  rcases le_or_gt b.size config.slots with hroom | hover
  · have hall : b.vectors.take config.slots = b.vectors := List.take_of_length_le (hlength ▸ hroom)
    have hsize : b.size = (b.vectors.map (LevelDescriptor.encode config)).length := by
      rw [List.length_map, hlength]
    have hfits : b.size ≤ (descriptors config b).length := by
      rw [descriptors, hall, List.length_append, ← hsize]
      omega
    rw [ofBands, Record.drop_ofDescriptors hfits, descriptors, hall] at h
    nth_rewrite 1 [hsize] at h
    rw [List.drop_left] at h
    exact Record.eq_zero_of_mem_padding h
  · -- The record ends before the last level does.
    have hend : (ofBands config b).length ≤ b.size * levelSize := by
      rw [length_ofBands, ← LevelConfig.slots_mul_levelSize]
      exact Nat.mul_le_mul_right levelSize (le_of_lt hover)
    rw [List.drop_eq_nil_of_le hend] at h
    cases h

/-! ### Records -/

/-- A record with room for some number of levels holds some bands: each level in its own bytes from the lowest one
    on, as far as there is room, and only zeros behind them. -/
structure LaidOut (config : LevelConfig R) (slots : Nat) (b : HeightBands table) (record : List UInt8) : Prop where
  length : record.length = slots * levelSize
  written : ∀ i < slots, ∀ v, b.vectors[i]? = some v →
    (record.drop (i * levelSize)).take levelSize = (LevelDescriptor.encode config v).toBytes
  padded : ∀ byte ∈ record.drop (b.size * levelSize), byte = 0
  decoded : Record.decode config record =
    (b.vectors.take slots).map (fun v => (LevelDescriptor.encode config v).decode? config) ++
      List.replicate (slots - b.size) none

theorem laidOut_ofBands (config : LevelConfig R) (b : HeightBands table) :
    LaidOut config config.slots b (ofBands config b) where
  length := by rw [length_ofBands, LevelConfig.slots_mul_levelSize]
  written i hi v hv := Record.take_drop_ofDescriptors (getElem?_descriptors hi hv)
  padded byte := eq_zero_of_mem_drop_ofBands
  decoded := decode_ofBands

/-- There are no more bands than levels, and the record holds as many of them as its bytes have room for. It holds
    all of them in as many bytes as the levels need exactly if these can be counted. -/
theorem laidOut_of_encode (hb : levels config point vs = .ok b) (hr : encode config point vs = .ok record) :
    b.size ≤ config.levels ∧ LaidOut config config.slots b record ∧
    (LaidOut config config.levels b record ↔ config.levels * levelSize < Word.limit) := by
  obtain ⟨-, rfl⟩ := (encode_eq_ok_iff hb).mp hr
  have hlaid : LaidOut config config.slots b (ofBands config b) := laidOut_ofBands config b
  refine ⟨(compact_eq_ok_iff.mp hb).2, hlaid, fun h => ?_, fun hcount => ?_⟩
  · have hsize : config.slots * levelSize = config.levels * levelSize := hlaid.length.symm.trans h.length
    exact LevelConfig.slots_eq_levels_iff.mp (Nat.eq_of_mul_eq_mul_right (by decide) hsize)
  · rwa [LevelConfig.slots_eq_levels_iff.mpr hcount] at hlaid

/-- Two airspaces one above the other. -/
def lowerAndUpper : List (AirspaceVector (.ofBands [(0, 2000), (2000, 5000)] : AirspaceTable Float)) :=
  [.measured ⟨0, by decide⟩ 500 90 false, .measured ⟨1, by decide⟩ 1000 180 true]

theorem laidOut_of_encode_lowerAndUpper : ∃ b,
    levels .standard ⟨48.7, 9.15⟩ lowerAndUpper = .ok b ∧ b.size = 2 ∧
    encode .standard ⟨48.7, 9.15⟩ lowerAndUpper =
      .ok [0, 8, 30, 8, 8, 20, 188, 16, 0, 0, 0, 0, 0, 0, 0, 0, 0, 0, 0, 0] ∧
    LaidOut .standard 5 b [0, 8, 30, 8, 8, 20, 188, 16, 0, 0, 0, 0, 0, 0, 0, 0, 0, 0, 0, 0] := by
  have hb : levels .standard ⟨48.7, 9.15⟩ lowerAndUpper = .ok _ :=
    compact_eq_ok_iff.mpr ⟨rfl, by decide +kernel⟩
  have hr : encode .standard ⟨48.7, 9.15⟩ lowerAndUpper =
      .ok [0, 8, 30, 8, 8, 20, 188, 16, 0, 0, 0, 0, 0, 0, 0, 0, 0, 0, 0, 0] :=
    (encode_eq_ok_iff hb).mpr ⟨by decide, by decide +kernel⟩
  exact ⟨_, hb, by decide +kernel, hr, (laidOut_of_encode hb hr).2.2.mpr (by decide)⟩

/-- With so many levels that their bytes go round the record has room for the lower one only. -/
theorem not_laidOut_lowerAndUpper : ∃ b,
    levels { LevelConfig.standard with levels := 4611686018427387905 } ⟨48.7, 9.15⟩ lowerAndUpper = .ok b ∧
    b.size = 2 ∧
    encode { LevelConfig.standard with levels := 4611686018427387905 } ⟨48.7, 9.15⟩ lowerAndUpper =
      .ok [0, 8, 30, 8] ∧
    ¬ LaidOut { LevelConfig.standard with levels := 4611686018427387905 } 4611686018427387905 b [0, 8, 30, 8] := by
  have hb : levels { LevelConfig.standard with levels := 4611686018427387905 } ⟨48.7, 9.15⟩ lowerAndUpper = .ok _ :=
    compact_eq_ok_iff.mpr ⟨rfl, by decide +kernel⟩
  refine ⟨_, hb, by decide +kernel, (encode_eq_ok_iff hb).mpr ⟨by decide, by decide +kernel⟩, fun h => ?_⟩
  exact absurd h.length (by decide)

end PointRecord

end AirspaceRaster
