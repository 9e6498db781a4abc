import AirspaceRaster.Proofs.Band.InsideLimits
import AirspaceRaster.Raster.PointRecord

/-! When the levels do not suffice. What cannot be dropped are bands, not airspaces: the budget is exceeded
    if there are more bands with the point inside than levels. One airspace may have several of them, so
    there may be fewer airspaces with the point inside than levels, but always more than half as many. -/

namespace AirspaceRaster
open AirspaceVector HeightBands Sweep

variable {R : Type} [Scalar R] {table : AirspaceTable R} {vs : List (AirspaceVector table)} {b : HeightBands table}
  {config : LevelConfig R} {point : Point R} {levels : Nat} {x : BudgetExceeded R}

/-! ### Bands -/

namespace HeightBands

theorem insideBands_shed (hflag : ∀ e ∈ b.toList, ∀ f ∈ b.toList, e.2.index = f.2.index →
    e.2.inside = f.2.inside) : (b.shed levels).2.insideBands = b.insideBands := by
  refine (shed_induction (P := fun c => c.toList ⊆ b.toList ∧ c.insideBands = b.insideBands)
    ⟨fun _ he => he, rfl⟩ ?_).1.2
  rintro c v ⟨hsub, hinside⟩ - hv
  obtain ⟨⟨k, hk⟩, hout⟩ := mem_of_farthestOutside? hv
  refine ⟨fun f hf => hsub (mem_without.mp hf).1, ?_⟩
  rw [← hinside, insideBands, insideBands, without, filter, restrict, List.filter_filter]
  refine List.filter_congr fun e he => ?_
  cases hi : e.2.inside with
  | false => rfl
  | true =>
    have hne : e.2.sameAirspace v = false := Bool.eq_false_iff.mpr fun hsame => by
      have := hflag e (hsub he) (k, v) (hsub hk) (sameAirspace_iff.mp hsame)
      rw [hi, hout] at this
      cases this
    simp [hne]

/-- Shedding leaves too many bands exactly if there are too many with the point inside. -/
theorem lt_size_shed_iff (hflag : ∀ e ∈ b.toList, ∀ f ∈ b.toList, e.2.index = f.2.index →
    e.2.inside = f.2.inside) : levels < (b.shed levels).2.size ↔ levels < b.insideBands.length := by
  have hrest : (b.shed levels).2.insideBands = b.insideBands := insideBands_shed hflag
  rw [← hrest]
  constructor
  · intro hlt
    have hin := size_shed_le_or.resolve_left (not_le_of_gt hlt)
    rwa [insideBands, List.filter_eq_self.mpr hin]
  · intro hlt
    exact lt_of_lt_of_le hlt (List.length_filter_le _ _)

end HeightBands

/-! ### Levels of a point -/

namespace PointRecord

/-- The bands of a point that have to be stored: those with the point inside that are left after merging. -/
def mandatory (config : LevelConfig R) (vs : List (AirspaceVector table)) :
    List (Altitude × AirspaceVector table) :=
  ((resolve vs).merged config).insideBands

theorem length_mandatory_lt (hne : mandatory config vs ≠ []) :
    (mandatory config vs).length < 2 * (insideAirspaces vs).card :=
  length_insideBands_lt merged_subset hne

theorem index_mandatory_subset (config : LevelConfig R) (vs : List (AirspaceVector table)) :
    ((mandatory config vs).map (·.2.index)).toFinset ⊆ insideAirspaces vs := by
  intro i hi
  obtain ⟨e, he, rfl⟩ := List.mem_map.mp (List.mem_toFinset.mp hi)
  obtain ⟨hmem, hin⟩ := mem_insideBands.mp he
  have hchosen := (mem_resolve.mp (merged_subset_self hmem)).2
  exact mem_insideAirspaces.mpr ⟨e.2, (mem_of_chosenAt? hchosen).1, hin, rfl⟩

theorem levels_eq_error_iff_lt : PointRecord.levels config point vs = .error x ↔
    x = ⟨point, config.levels⟩ ∧ config.levels < (mandatory config vs).length := by
  have hsub : ((resolve vs).merged config).toList ⊆ (resolve vs).toList := merged_subset_self
  rw [PointRecord.levels, compact_eq_error_iff,
    lt_size_shed_iff fun e he f hf => inside_eq_of_index (hsub he) (hsub hf)]
  rfl

/-- The budget is exceeded exactly if more bands than levels have to be stored. Then the airspaces with the
    point inside are more than half as many as the levels, and more than the levels if each of them has one
    band only. -/
theorem levels_eq_error_iff (config : LevelConfig R) (point : Point R) (vs : List (AirspaceVector table))
    (x : BudgetExceeded R) :
    (PointRecord.levels config point vs = .error x ↔
      x = ⟨point, config.levels⟩ ∧ config.levels < (mandatory config vs).length) ∧
    (config.levels < (mandatory config vs).length → config.levels + 1 < 2 * (insideAirspaces vs).card) ∧
    (config.levels < (mandatory config vs).length → ((mandatory config vs).map (·.2.index)).Nodup →
      config.levels < (insideAirspaces vs).card) := by
  refine ⟨levels_eq_error_iff_lt, fun hlt => ?_, fun hlt hnodup => ?_⟩
  · have hne : mandatory config vs ≠ [] := List.ne_nil_of_length_pos (by omega)
    exact lt_of_le_of_lt hlt (length_mandatory_lt hne)
  · have hcard := Finset.card_le_card (index_mandatory_subset config vs)
    rw [List.toFinset_card_of_nodup hnodup, List.length_map] at hcard
    exact lt_of_lt_of_le hlt hcard

/-- A narrow airspace within a wide one whose boundary is farther away, with the point inside both. -/
def narrowAndWide : List (AirspaceVector (.ofBands [(0, 6000), (2000, 3000)] : AirspaceTable Float)) :=
  [.measured ⟨0, by decide⟩ 900 0 true, .measured ⟨1, by decide⟩ 100 0 true]

theorem levels_eq_error_iff_narrowAndWide :
    PointRecord.levels { LevelConfig.standard with levels := 2 } ⟨48.5, 9.4⟩ narrowAndWide =
      .error ⟨⟨48.5, 9.4⟩, 2⟩ ∧
    2 + 1 < 2 * (insideAirspaces narrowAndWide).card := by
  have hlt : 2 < (mandatory { LevelConfig.standard with levels := 2 } narrowAndWide).length := by decide +kernel
  obtain ⟨herror, hhalf, -⟩ := levels_eq_error_iff { LevelConfig.standard with levels := 2 } ⟨48.5, 9.4⟩
    narrowAndWide ⟨⟨48.5, 9.4⟩, 2⟩
  exact ⟨herror.mpr ⟨rfl, hlt⟩, hhalf hlt⟩

theorem levels_narrowAndWide_eq_error : (narrowAndWide.map (·.index)).Nodup ∧
    PointRecord.levels { LevelConfig.standard with levels := 2 } ⟨48.5, 9.4⟩ narrowAndWide =
      .error ⟨⟨48.5, 9.4⟩, 2⟩ ∧
    (insideAirspaces narrowAndWide).card ≤ 2 := by
  refine ⟨by decide, levels_eq_error_iff_lt.mpr ⟨rfl, ?_⟩, by decide +kernel⟩
  decide +kernel

end PointRecord

end AirspaceRaster
