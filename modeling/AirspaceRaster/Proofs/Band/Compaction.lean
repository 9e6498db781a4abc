import AirspaceRaster.Proofs.Band.Shedding
import AirspaceRaster.Proofs.Band.Thinning

/-! Compaction as a whole: which bands are left before the farthest airspaces go, and what the result is
    when there is one. -/

namespace AirspaceRaster.HeightBands
variable {R : Type} [Scalar R] {table : AirspaceTable R} {b c : HeightBands table} {config : LevelConfig R}
  {point : Point R} {e : Altitude × AirspaceVector table} {x : BudgetExceeded R}

theorem merged_eq (b : HeightBands table) (config : LevelConfig R) :
    b.merged config = b.dropRepeated ∨ b.merged config = b.dropRepeated.dropAlike config := by
  rw [merged]
  split
  · exact Or.inr rfl
  · exact Or.inl rfl

theorem merged_of_size_le (hs : b.dropRepeated.size ≤ config.levels) : b.merged config = b.dropRepeated := by
  rw [merged, if_neg (not_lt_of_ge hs)]

theorem merged_of_lt_size (hs : config.levels < b.dropRepeated.size) :
    b.merged config = b.dropRepeated.dropAlike config := by
  rw [merged, if_pos hs]

theorem merged_sublist : (b.merged config).toList.Sublist b.dropRepeated.toList := by
  rcases merged_eq b config with h | h
  · rw [h]
  · rw [h]
    exact dropAlike_sublist

theorem merged_subset : (b.merged config).toList ⊆ b.dropRepeated.toList :=
  merged_sublist.subset

theorem merged_subset_self : (b.merged config).toList ⊆ b.toList :=
  List.Subset.trans merged_subset dropRepeated_subset

/-- A band without repetitions is kept or the nearest kept band below it looks like it. -/
theorem mem_or_below_merged (he : e ∈ b.dropRepeated.toList) : e ∈ (b.merged config).toList ∨
    ∃ f, (b.merged config).below? e.1 = some f ∧ alike config f e = true := by
  rcases merged_eq b config with h | h
  · rw [h]
    exact Or.inl he
  · rw [h]
    exact mem_or_below_dropAlike config he

/-- The result of compaction is what shedding leaves, provided that there is room for it. -/
theorem compact_eq_ok_iff : b.compact config point = .ok c ↔
    c = ((b.merged config).shed config.levels).2 ∧ c.size ≤ config.levels :=
  trim_eq_ok_iff

theorem compact_eq_error_iff : b.compact config point = .error x ↔
    x = ⟨point, config.levels⟩ ∧ config.levels < ((b.merged config).shed config.levels).2.size :=
  trim_eq_error_iff

/-- Bands that fit without repetitions are left as they are then. -/
theorem compact_of_size_le (hs : b.dropRepeated.size ≤ config.levels) :
    b.compact config point = .ok b.dropRepeated :=
  compact_eq_ok_iff.mpr ⟨by rw [merged_of_size_le hs, shed_of_size_le hs], hs⟩

theorem compact_sublist (h : b.compact config point = .ok c) : c.toList.Sublist b.toList := by
  obtain ⟨rfl, -⟩ := compact_eq_ok_iff.mp h
  exact shed_sublist.trans (merged_sublist.trans dropRepeated_sublist)

end AirspaceRaster.HeightBands
