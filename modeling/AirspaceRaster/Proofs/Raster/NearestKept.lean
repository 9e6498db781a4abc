import Mathlib.Data.Rat.Floor
import Mathlib.Order.Bounds.Basic
import Mathlib.Tactic.NormNum
import AirspaceRaster.Proofs.Band.Alternation
import AirspaceRaster.Proofs.Level.Monotone
import AirspaceRaster.Raster.PointRecord

/-! The nearest airspace does not get lost. Where a point is in no airspace its levels can always be
    worked out, and the smallest distance byte among them is that of the nearest airspace: thinning drops
    a band only in favour of one with the same byte, and the farthest airspace goes first. -/

namespace AirspaceRaster
open AirspaceVector HeightBands Sweep

variable {R : Type} [Scalar R] {table : AirspaceTable R} {vs : List (AirspaceVector table)} {b c : HeightBands table}
  {config : LevelConfig R} {point : Point R} {v : AirspaceVector table} {m : UInt8}

/-! ### Distance bytes -/

def distanceBytes (config : LevelConfig R) (b : HeightBands table) : Set UInt8 :=
  {x | ∃ v ∈ b.vectors, (LevelDescriptor.encode config v).distance = x}

theorem mem_distanceBytes : m ∈ distanceBytes config b ↔
    ∃ e ∈ b.toList, (LevelDescriptor.encode config e.2).distance = m := by
  constructor
  · rintro ⟨v, hv, hm⟩
    obtain ⟨e, he, rfl⟩ := List.mem_map.mp hv
    exact ⟨e, he, hm⟩
  · rintro ⟨e, he, hm⟩
    exact ⟨e.2, List.mem_map_of_mem he, hm⟩

/-- The smallest distance byte stays the smallest one as long as some band has it. -/
theorem isLeast_of_subset (hs : c.toList ⊆ b.toList) (hb : IsLeast (distanceBytes config b) m)
    (hm : m ∈ distanceBytes config c) : IsLeast (distanceBytes config c) m := by
  refine ⟨hm, fun x hx => hb.2 ?_⟩
  obtain ⟨e, he, rfl⟩ := mem_distanceBytes.mp hx
  exact mem_distanceBytes.mpr ⟨e, hs he, rfl⟩

variable [Scalar.Ordered R]

theorem exists_nearest (hd : Defined vs) (hband : ∃ v ∈ vs, v.floor < v.ceiling) :
    ∃ v ∈ vs, v.floor < v.ceiling ∧ ∀ w ∈ vs, w.floor < w.ceiling → v.distance ≤ w.distance := by
  obtain ⟨u, hu, hub⟩ := hband
  have hmem : u ∈ vs.filter fun v => v.floor < v.ceiling := List.mem_filter.mpr ⟨hu, by simpa using hub⟩
  cases hv : nearest? (vs.filter fun v => v.floor < v.ceiling) with
  | none => exact absurd (winner_eq_none.mp hv) (List.ne_nil_of_mem hmem)
  | some v =>
    obtain ⟨hvmem, hvb⟩ := List.mem_filter.mp (mem_of_winner hv)
    have hr := (isRanking_distance hd).subset (List.filter_sublist (p := fun v => v.floor < v.ceiling)).subset
    refine ⟨v, hvmem, by simpa using hvb, fun w hw hwb => ?_⟩
    simpa using stays_of_winner hr hv (List.mem_filter.mpr ⟨hw, by simpa using hwb⟩)

/-- Neither repetitions nor look-alikes take the smallest distance byte with them. -/
theorem isLeast_merged (hd : Defined vs) (hb : IsLeast (distanceBytes config (resolve vs)) m) :
    IsLeast (distanceBytes config ((resolve vs).merged config)) m := by
  have hunique : IsLeast (distanceBytes config (resolve vs).dropRepeated) m := by
    refine isLeast_of_subset dropRepeated_subset hb ?_
    obtain ⟨e, he, hem⟩ := mem_distanceBytes.mp hb.1
    rcases mem_or_below_dropRepeated he with hkept | ⟨f, hf, hi⟩
    · exact mem_distanceBytes.mpr ⟨e, hkept, hem⟩
    · have hfmem := (below?_eq_some_iff.mp hf).1
      have heq : f.2 = e.2 := eq_of_index hd (dropRepeated_subset hfmem) he hi
      exact mem_distanceBytes.mpr ⟨f, hfmem, heq ▸ hem⟩
  refine isLeast_of_subset merged_subset hunique ?_
  obtain ⟨e, he, hem⟩ := mem_distanceBytes.mp hunique.1
  rcases mem_or_below_merged he with hkept | ⟨f, hf, halike⟩
  · exact mem_distanceBytes.mpr ⟨e, hkept, hem⟩
  · exact mem_distanceBytes.mpr
      ⟨f, (below?_eq_some_iff.mp hf).1, (LevelDescriptor.looksLike_iff.mp halike).1.trans hem⟩

section Monotone
variable (hmono : ∀ {d e : R}, d ≤ e →
  Level.encodeDistance d config.distanceStep ≤ Level.encodeDistance e config.distanceStep)
include hmono

/-- The smallest distance byte that the sweep finds is that of the nearest airspace. -/
theorem isLeast_resolve (hd : Defined vs) (hout : ∀ v ∈ vs, v.inside = false) (hv : v ∈ vs)
    (hband : v.floor < v.ceiling) (hleast : ∀ w ∈ vs, w.floor < w.ceiling → v.distance ≤ w.distance) :
    IsLeast (distanceBytes config (resolve vs)) (Level.encodeDistance v.distance config.distanceStep) := by
  have hlow : ∀ e ∈ (resolve vs).toList, v.distance ≤ e.2.distance := fun e he => by
    obtain ⟨hmem, hc⟩ := mem_of_chosenAt? (mem_resolve.mp he).2
    obtain ⟨hfloor, hceiling⟩ := covers_iff.mp hc
    exact hleast e.2 hmem (lt_of_le_of_lt hfloor hceiling)
  constructor
  · have hc : v.covers v.floor = true := covers_iff.mpr ⟨le_rfl, hband⟩
    obtain ⟨w, hw⟩ := exists_chosenAt? hv hc
    have hmem : (v.floor, w) ∈ (resolve vs).toList :=
      mem_resolve.mpr ⟨mem_limits.mpr ⟨v, hv, Or.inl rfl⟩, hw⟩
    have hflag : v.inside = w.inside := (hout v hv).trans (hout w (mem_of_chosenAt? hw).1).symm
    have hwv : w.distance ≤ v.distance := distance_le_of_chosenAt? hd hw hv hc hflag
    exact mem_distanceBytes.mpr ⟨_, hmem, UInt8.le_antisymm (hmono hwv) (hmono (hlow _ hmem))⟩
  · intro x hx
    obtain ⟨e, he, rfl⟩ := mem_distanceBytes.mp hx
    exact hmono (hlow e he)

/-- Dropping the farthest airspace leaves the smallest distance byte, as long as a band is left. -/
theorem isLeast_without (hd : Defined vs) (hs : b.toList ⊆ (resolve vs).toList)
    (hout : ∀ e ∈ b.toList, e.2.inside = false) (hb : IsLeast (distanceBytes config b) m)
    (hv : b.farthestOutside? = some v) (hne : (b.without v).toList ≠ []) :
    IsLeast (distanceBytes config (b.without v)) m := by
  have hsub : (b.without v).toList ⊆ b.toList := fun e he => (mem_without.mp he).1
  refine isLeast_of_subset hsub hb ?_
  obtain ⟨e, he, hem⟩ := mem_distanceBytes.mp hb.1
  by_cases hev : e.2.index = v.index
  · -- The nearest airspace is also the farthest one, so all bands have its byte.
    obtain ⟨⟨k, hk⟩, -⟩ := mem_of_farthestOutside? hv
    obtain rfl : e.2 = v := eq_of_index hd (hs he) (hs hk) hev
    obtain ⟨g, hg⟩ := List.exists_mem_of_ne_nil _ hne
    have hgmem := hsub hg
    have hge := distance_le_of_farthestOutside? (defined_of_subset hd hs) hv hgmem (hout g hgmem)
    have hgm : (LevelDescriptor.encode config g.2).distance ≤ m := hem ▸ hmono hge
    exact mem_distanceBytes.mpr
      ⟨g, hg, UInt8.le_antisymm hgm (hb.2 (mem_distanceBytes.mpr ⟨g, hgmem, rfl⟩))⟩
  · exact mem_distanceBytes.mpr ⟨e, mem_without.mpr ⟨he, hev⟩, hem⟩

theorem isLeast_shed (hd : Defined vs) (hs : b.toList ⊆ (resolve vs).toList) (halt : b.Alternating)
    (hout : ∀ e ∈ b.toList, e.2.inside = false) {levels : Nat} (hl : 1 ≤ levels)
    (hb : IsLeast (distanceBytes config b) m) : IsLeast (distanceBytes config (b.shed levels).2) m := by
  refine (shed_induction (P := fun c => c.toList ⊆ b.toList ∧ c.Alternating ∧ IsLeast (distanceBytes config c) m)
    ⟨fun _ he => he, halt, hb⟩ ?_).1.2.2
  rintro c v ⟨hc, hcalt, hcm⟩ hsize hv
  have hcs : c.toList ⊆ (resolve vs).toList := fun e he => hs (hc he)
  exact ⟨fun e he => hc (mem_without.mp he).1, hcalt.without hd hcs hv,
    isLeast_without hmono hd hcs (fun e he => hout e (hc he)) hcm hv
      (hcalt.without_ne_nil (by omega) v)⟩

theorem exists_levels (hd : Defined vs) (hl : 1 ≤ config.levels) (hout : ∀ v ∈ vs, v.inside = false)
    (hband : ∃ v ∈ vs, v.floor < v.ceiling) :
    ∃ b, PointRecord.levels config point vs = .ok b ∧ b.toList ≠ [] ∧
      ∃ d, IsLeast {x | ∃ v ∈ vs, v.floor < v.ceiling ∧ v.distance = x} d ∧
        IsLeast (distanceBytes config b) (Level.encodeDistance d config.distanceStep) := by
  obtain ⟨v, hv, hvb, hleast⟩ := exists_nearest hd hband
  have hs : ((resolve vs).merged config).toList ⊆ (resolve vs).toList := merged_subset_self
  have hbout : ∀ e ∈ ((resolve vs).merged config).toList, e.2.inside = false := fun e he =>
    hout e.2 (mem_of_chosenAt? (mem_resolve.mp (hs he)).2).1
  have hb := isLeast_shed hmono hd hs (alternating_merged hd) hbout hl
    (isLeast_merged hd (isLeast_resolve hmono hd hout hv hvb hleast))
  obtain ⟨e, he, -⟩ := mem_distanceBytes.mp hb.1
  have hsize : (((resolve vs).merged config).shed config.levels).2.size ≤ config.levels := by
    refine size_shed_le_or.resolve_right fun hin => ?_
    have := hbout e (shed_subset he)
    rw [hin e he] at this
    cases this
  refine ⟨_, compact_eq_ok_iff.mpr ⟨rfl, hsize⟩, List.ne_nil_of_mem he, v.distance, ⟨⟨v, hv, hvb, rfl⟩, ?_⟩, hb⟩
  rintro x ⟨w, hw, hwb, rfl⟩
  exact hleast w hw hwb

end Monotone

/-! ### Exact numbers -/

namespace PointRecord
open Exact

variable {K : Type} [Field K] [LinearOrder K] [IsStrictOrderedRing K] [FloorRing K] {table : AirspaceTable K}
  {vs : List (AirspaceVector table)} {config : LevelConfig K} {point : Point K}

/-- With exact distances a point in no airspace, but near one with a band, has levels, and the smallest
    distance byte among them is that of the nearest such airspace. -/
theorem nearest_kept (hl : 1 ≤ config.levels) (hs : 0 < config.distanceStep)
    (hout : ∀ v ∈ vs, v.inside = false) (hband : ∃ v ∈ vs, v.floor < v.ceiling) :
    ∃ b, levels config point vs = .ok b ∧ b.toList ≠ [] ∧
      ∃ d, IsLeast {x | ∃ v ∈ vs, v.floor < v.ceiling ∧ v.distance = x} d ∧
        IsLeast {x | ∃ v ∈ b.vectors, (LevelDescriptor.encode config v).distance = x}
          (Level.encodeDistance d config.distanceStep) :=
  exists_levels (Level.encodeDistance_mono hs) (fun v _ => Exact.isDefined v.distance) hl hout hband

/-- Two airspaces next to a point, of which a single level holds only the nearer one. -/
def twoOutside : List (AirspaceVector (.ofBands [(0, 1000), (1000, 2000)] : AirspaceTable ℚ)) :=
  [⟨⟨0, by decide⟩, 9000, 90, false⟩, ⟨⟨1, by decide⟩, 300, 180, false⟩]

def singleLevel : LevelConfig ℚ := { LevelConfig.standard with levels := 1 }

theorem nearest_kept_twoOutside : ∃ b, levels singleLevel ⟨48, 9⟩ twoOutside = .ok b ∧
    b.vectors = [⟨⟨1, by decide⟩, 300, 180, false⟩] ∧
    IsLeast {x | ∃ v ∈ twoOutside, v.floor < v.ceiling ∧ v.distance = x} 300 ∧
    IsLeast {x | ∃ v ∈ b.vectors, (LevelDescriptor.encode singleLevel v).distance = x} 5 := by
  have hstep : 0 < singleLevel.distanceStep := by
    show (0 : ℚ) < ((64 : Int) : ℚ)
    norm_num
  obtain ⟨b, hb, -, d, hd, hbyte⟩ : ∃ b, levels singleLevel ⟨48, 9⟩ twoOutside = .ok b ∧ _ :=
    nearest_kept le_rfl hstep (by decide) (by decide)
  have hleast : IsLeast {x | ∃ v ∈ twoOutside, v.floor < v.ceiling ∧ v.distance = x} 300 := by
    refine ⟨⟨_, List.mem_cons_of_mem _ (List.mem_singleton_self _), by decide, rfl⟩, ?_⟩
    rintro x ⟨v, hv, -, rfl⟩
    revert v
    decide +kernel
  obtain rfl : d = 300 := hd.unique hleast
  have hkept : (levels singleLevel ⟨48, 9⟩ twoOutside).toOption.map HeightBands.vectors =
      some [⟨⟨1, by decide⟩, 300, 180, false⟩] := by decide +kernel
  rw [hb] at hkept
  have hfive : Level.encodeDistance 300 singleLevel.distanceStep = 5 := by decide +kernel
  exact ⟨b, hb, Option.some.inj hkept, hleast, hfive ▸ hbyte⟩

end PointRecord

end AirspaceRaster
