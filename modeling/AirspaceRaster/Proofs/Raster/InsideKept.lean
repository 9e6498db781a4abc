import AirspaceRaster.Proofs.Band.Compaction
import AirspaceRaster.Proofs.Band.Sweep
import AirspaceRaster.Proofs.Level.Byte
import AirspaceRaster.Raster.PointRecord

/-! No airspace around a point gets lost. If the bearing bytes with and without the flag for inside are
    farther apart than the tolerance, a point that lies inside some airspace has a level that says so. -/

namespace AirspaceRaster.PointRecord
open AirspaceVector HeightBands Sweep

variable {R : Type} [Scalar R] {table : AirspaceTable R} {vs : List (AirspaceVector table)}
  {config : LevelConfig R} {point : Point R} {b : HeightBands table} {e : Altitude × AirspaceVector table}

/-- What stands for a band inside in the levels of a point: the nearest level below it is inside too and
    has the same distance byte and, up to the tolerance, the same bearing byte. -/
def Represents (config : LevelConfig R) (b : HeightBands table) (e : Altitude × AirspaceVector table) : Prop :=
  ∃ f, b.below? e.1 = some f ∧ f.2.inside = true ∧
    (LevelDescriptor.encode config f.2).distance = (LevelDescriptor.encode config e.2).distance ∧
    (((LevelDescriptor.encode config f.2).bearing.toNat : Int) -
      (LevelDescriptor.encode config e.2).bearing.toNat).natAbs ≤ config.bearingTolerance.toNat

theorem levels_subset (hb : levels config point vs = .ok b) : b.toList ⊆ (resolve vs).toList := by
  obtain ⟨rfl, -⟩ := compact_eq_ok_iff.mp hb
  exact List.Subset.trans shed_subset merged_subset_self

/-- An airspace with the point inside has a band, and its lowest one survives the first thinning. -/
theorem exists_unique_inside {v : AirspaceVector table} (hv : v ∈ vs) (hband : v.floor < v.ceiling)
    (hi : v.inside = true) : ∃ e ∈ (resolve vs).dropRepeated.toList, e.2.inside = true := by
  have hc : v.covers v.floor = true := covers_iff.mpr ⟨le_rfl, hband⟩
  obtain ⟨w, hw⟩ := exists_chosenAt? hv hc
  have hmem : (v.floor, w) ∈ (resolve vs).toList :=
    mem_resolve.mpr ⟨mem_limits.mpr ⟨v, hv, Or.inl rfl⟩, hw⟩
  have hwi : w.inside = true := inside_of_chosenAt? hw hv hc hi
  rcases mem_or_below_dropRepeated hmem with hkept | ⟨f, hf, hidx⟩
  · exact ⟨_, hkept, hwi⟩
  · have hfmem := (below?_eq_some_iff.mp hf).1
    exact ⟨f, hfmem, (inside_eq_of_index (dropRepeated_subset hfmem) hmem hidx).trans hwi⟩

theorem mem_or_represents {slots : Int} (hslots : Level.bearingSlots config.bearingStep = .of slots)
    (hpos : 1 ≤ slots) (hroom : slots + config.bearingTolerance.toNat ≤ 128)
    (hb : levels config point vs = .ok b) (he : e ∈ (resolve vs).dropRepeated.toList)
    (hi : e.2.inside = true) : e ∈ b.toList ∨ Represents config b e := by
  obtain ⟨rfl, -⟩ := compact_eq_ok_iff.mp hb
  have hsub : ((resolve vs).merged config).toList ⊆ (resolve vs).toList := merged_subset_self
  have hkept : ∀ f ∈ ((resolve vs).merged config).toList, f.2.inside = true →
      f ∈ (((resolve vs).merged config).shed config.levels).2.toList := fun f hf hfi =>
    mem_shed_of_inside (fun e he f hf => inside_eq_of_index (hsub he) (hsub hf)) hf hfi
  rcases mem_or_below_merged he with hmem | ⟨f, hf, halike⟩
  · exact Or.inl (hkept e hmem hi)
  · have hfi : f.2.inside = true :=
      (LevelDescriptor.inside_eq_of_looksLike hslots hpos hroom halike).trans hi
    obtain ⟨hdist, hgap⟩ := LevelDescriptor.looksLike_iff.mp halike
    have hfb := hkept f (below?_eq_some_iff.mp hf).1 hfi
    exact Or.inr ⟨f, last?_of_subset shed_subset hf hfb, hfi, hdist, hgap⟩

/-- The levels of a point contain an airspace with the point inside exactly if one was given, and each
    band of such an airspace is a level or is represented by the nearest level below it. -/
theorem inside_kept {slots : Int} (hslots : Level.bearingSlots config.bearingStep = .of slots)
    (hpos : 1 ≤ slots) (hroom : slots + config.bearingTolerance.toNat ≤ 128)
    (hb : levels config point vs = .ok b) :
    ((∃ v ∈ b.vectors, v.inside = true) ↔ ∃ v ∈ vs, v.floor < v.ceiling ∧ v.inside = true) ∧
      ∀ e ∈ (resolve vs).dropRepeated.toList, e.2.inside = true → e ∈ b.toList ∨ Represents config b e := by
  have hpart : ∀ e ∈ (resolve vs).dropRepeated.toList, e.2.inside = true → e ∈ b.toList ∨ Represents config b e :=
    fun e he hi => mem_or_represents hslots hpos hroom hb he hi
  refine ⟨⟨?_, ?_⟩, hpart⟩
  · rintro ⟨v, hv, hi⟩
    obtain ⟨e, he, rfl⟩ := List.mem_map.mp hv
    obtain ⟨hmem, hc⟩ := mem_of_chosenAt? (mem_resolve.mp (levels_subset hb he)).2
    obtain ⟨hfloor, hceiling⟩ := covers_iff.mp hc
    exact ⟨e.2, hmem, lt_of_le_of_lt hfloor hceiling, hi⟩
  · rintro ⟨v, hv, hband, hi⟩
    obtain ⟨e, he, hei⟩ := exists_unique_inside hv hband hi
    rcases hpart e he hei with hmem | ⟨f, hf, hfi, -⟩
    · exact ⟨e.2, List.mem_map_of_mem hmem, hei⟩
    · exact ⟨f.2, List.mem_map_of_mem (below?_eq_some_iff.mp hf).1, hfi⟩

/-- Two airspaces with the point inside that look alike, below one that is far away. -/
def twoInside : List (AirspaceVector (.ofBands [(0, 1000), (1000, 2000), (2000, 3000)] : AirspaceTable Float)) :=
  [.measured ⟨0, by decide⟩ 100 90 true, .measured ⟨1, by decide⟩ 100 93 true,
    .measured ⟨2, by decide⟩ 9000 90 false]

theorem inside_kept_twoInside : ∃ b,
    levels { LevelConfig.standard with levels := 1 } ⟨48.7, 9.15⟩ twoInside = .ok b ∧
    (∃ e ∈ (resolve twoInside).dropRepeated.toList, e.2.inside = true ∧ e.1 ∉ b.keys) ∧
    ((∃ v ∈ b.vectors, v.inside = true) ↔ ∃ v ∈ twoInside, v.floor < v.ceiling ∧ v.inside = true) ∧
    ∀ e ∈ (resolve twoInside).dropRepeated.toList, e.2.inside = true →
      e ∈ b.toList ∨ Represents { LevelConfig.standard with levels := 1 } b e := by
  have hb : levels { LevelConfig.standard with levels := 1 } ⟨48.7, 9.15⟩ twoInside = .ok _ :=
    compact_eq_ok_iff.mpr ⟨rfl, by decide +kernel⟩
  exact ⟨_, hb, by decide +kernel, inside_kept (by rfl : Level.bearingSlots _ = .of 120) (by decide) (by decide) hb⟩

end AirspaceRaster.PointRecord
