import AirspaceRaster.Number.Binary64
import AirspaceRaster.Proofs.Band.InsideLimits

/-! What compaction selects. It takes bands away and never makes new ones, and it stops as soon as there is
    room for the rest. With more levels it stops earlier on the same way: the airspaces that are shed for few
    levels begin with the ones that are shed for many. So more levels never lose a band. -/

namespace AirspaceRaster.HeightBands
open AirspaceVector Sweep

variable {R : Type} [Scalar R] {table : AirspaceTable R} {b c : HeightBands table} {config : LevelConfig R}
  {point : Point R} {vs : List (AirspaceVector table)} {e : Altitude × AirspaceVector table}
  {few many levels : Nat} {x : BudgetExceeded R}

/-! ### Few levels and many -/

/-- Shedding for few levels may be done in two goes, the first one for many levels. -/
theorem shed_shed (hle : few ≤ many) : ((b.shed many).2.shed few).2 = (b.shed few).2 := by
  fun_induction shed many b with
  | case1 b hs => rfl
  | case2 b hs hnone => rfl
  | case3 b hs v hv _ dropped rest hrest ih =>
    -- What is too much for many levels is too much for few, so the same airspace goes first.
    have hfew : (b.shed few).2 = ((b.without v).shed few).2 := shed_of_farthestOutside? (by omega) hv
    rw [hrest] at ih
    rw [hfew]
    exact ih

theorem shed_sublist_shed (hle : few ≤ many) : (b.shed few).2.toList.Sublist (b.shed many).2.toList := by
  rw [← shed_shed hle]
  exact shed_sublist

theorem size_shed_le (hle : few ≤ many) (hs : (b.shed few).2.size ≤ few) : (b.shed many).2.size ≤ many := by
  have hrest : (b.shed many).2.size ≤ many ∨ ∀ e ∈ (b.shed many).2.toList, e.2.inside = true := size_shed_le_or
  rcases hrest with hmany | hinside
  · exact hmany
  · -- Nothing is left that could be shed, so it was all the same with few levels.
    have hsame : (b.shed few).2 = (b.shed many).2 := by
      rw [← shed_shed hle, shed_of_inside hinside]
    rw [← hsame]
    exact hs.trans hle

/-- Bands that can be reduced to few levels can be reduced to many, and then none of them is lost. -/
theorem compact_of_levels_le (hle : config.levels ≤ levels) (h : b.compact config point = .ok c) :
    ∃ d, b.compact { config with levels := levels } point = .ok d ∧ c.toList.Sublist d.toList := by
  obtain ⟨rfl, hsize⟩ := compact_eq_ok_iff.mp h
  rcases le_or_gt b.dropRepeated.size levels with hroom | hover
  · exact ⟨b.dropRepeated, compact_of_size_le hroom, shed_sublist.trans merged_sublist⟩
  · have hfew : b.merged config = b.dropRepeated.dropAlike config := merged_of_lt_size (by omega)
    have hmany : b.merged { config with levels := levels } = b.dropRepeated.dropAlike config :=
      merged_of_lt_size hover
    rw [hfew] at hsize ⊢
    refine ⟨((b.dropRepeated.dropAlike config).shed levels).2, compact_eq_ok_iff.mpr ⟨?_, ?_⟩,
      shed_sublist_shed hle⟩
    · rw [hmany]
    · exact size_shed_le hle hsize

/-- Four airspaces one above the other, of which the second one looks like the first one. -/
def fourStacked : List (AirspaceVector
    (.ofBands [(0, 1000), (1000, 2000), (2000, 3000), (3000, 4000)] : AirspaceTable Float)) :=
  [.measured ⟨0, by decide⟩ 640 90 false, .measured ⟨1, by decide⟩ 650 93 false,
    .measured ⟨2, by decide⟩ 1280 180 false, .measured ⟨3, by decide⟩ 2560 270 false]

theorem compact_of_levels_le_fourStacked : ∃ c d,
    (resolve fourStacked).compact { LevelConfig.standard with levels := 2 } ⟨48.7, 9.15⟩ = .ok c ∧
    c.keys = [⟨0, .sea⟩, ⟨2000, .sea⟩] ∧
    (resolve fourStacked).compact { LevelConfig.standard with levels := 4 } ⟨48.7, 9.15⟩ = .ok d ∧
    d.keys = [⟨0, .sea⟩, ⟨1000, .sea⟩, ⟨2000, .sea⟩, ⟨3000, .sea⟩] ∧ c.toList.Sublist d.toList := by
  have hc : (resolve fourStacked).compact { LevelConfig.standard with levels := 2 } ⟨48.7, 9.15⟩ = .ok _ :=
    compact_eq_ok_iff.mpr ⟨rfl, by decide +kernel⟩
  have hle : 2 ≤ 4 := by decide
  obtain ⟨d, hd, hsub⟩ := compact_of_levels_le hle hc
  refine ⟨_, d, hc, by decide +kernel, hd, ?_, hsub⟩
  obtain ⟨rfl, -⟩ := compact_eq_ok_iff.mp hd
  decide +kernel

/-! ### Old bands -/

theorem mem_of_compact_resolve (h : (resolve vs).compact config point = .ok c) (he : e ∈ c.toList) :
    e.2.floor ≤ e.1 ∧ e.1 < e.2.ceiling ∧ chosenAt? vs e.1 = some e.2 := by
  obtain ⟨-, hchosen⟩ := mem_resolve.mp ((compact_sublist h).subset he)
  obtain ⟨hfloor, hceiling⟩ := covers_iff.mp (mem_of_chosenAt? hchosen).2
  exact ⟨hfloor, hceiling, hchosen⟩

theorem lt_length_insideBands_of_compact_error (h : b.compact config point = .error x) :
    x = ⟨point, config.levels⟩ ∧ config.levels < b.insideBands.length := by
  obtain ⟨rfl, hlt⟩ := compact_eq_error_iff.mp h
  refine ⟨rfl, lt_of_lt_of_le hlt ?_⟩
  have hinside := size_shed_le_or.resolve_left (not_le_of_gt hlt)
  have hsub : ((b.merged config).shed config.levels).2.toList.Sublist b.toList :=
    shed_sublist.trans (merged_sublist.trans dropRepeated_sublist)
  calc ((b.merged config).shed config.levels).2.size
      = (((b.merged config).shed config.levels).2.toList.filter (·.2.inside)).length := by
        rw [List.filter_eq_self.mpr hinside, size]
    _ ≤ b.insideBands.length := (hsub.filter _).length_le

/-- What comes out of compaction are some of the bands that went in, no more than there are levels. If they
    fit without repetitions they are left so, and if they are given up more of them contain the point than there
    are levels. Bands of a sweep still hold what is chosen where they start. -/
theorem compact_selects (config : LevelConfig R) (point : Point R) (b : HeightBands table) :
    (∀ c, b.compact config point = .ok c →
      c.size ≤ config.levels ∧ c.toList.Sublist b.toList ∧ c.keys.Pairwise (· < ·)) ∧
    (b.dropRepeated.size ≤ config.levels → b.compact config point = .ok b.dropRepeated) ∧
    (∀ vs c, b = resolve vs → b.compact config point = .ok c →
      ∀ e ∈ c.toList, e.2.floor ≤ e.1 ∧ e.1 < e.2.ceiling ∧ chosenAt? vs e.1 = some e.2) ∧
    ∀ x, b.compact config point = .error x →
      x = ⟨point, config.levels⟩ ∧ config.levels < b.insideBands.length := by
  refine ⟨fun c h => ?_, compact_of_size_le, ?_, fun x => lt_length_insideBands_of_compact_error⟩
  · exact ⟨(compact_eq_ok_iff.mp h).2, compact_sublist h, List.pairwise_map.mpr c.ascending⟩
  · rintro vs c rfl h e he
    exact mem_of_compact_resolve h he

/-- Two airspaces around the point, one above the other. -/
def twoAround : List (AirspaceVector (.ofBands [(0, 1000), (1000, 2000)] : AirspaceTable Float)) :=
  [.measured ⟨0, by decide⟩ 500 90 true, .measured ⟨1, by decide⟩ 2000 180 true]

theorem compact_selects_fourStacked :
    (∃ c, (resolve fourStacked).compact { LevelConfig.standard with levels := 2 } ⟨48.7, 9.15⟩ = .ok c ∧
      c.size ≤ 2 ∧ c.toList.Sublist (resolve fourStacked).toList ∧
      ∀ e ∈ c.toList, e.2.floor ≤ e.1 ∧ e.1 < e.2.ceiling ∧ chosenAt? fourStacked e.1 = some e.2) ∧
    (resolve fourStacked).compact .standard ⟨48.7, 9.15⟩ = .ok (resolve fourStacked).dropRepeated ∧
    (resolve twoAround).compact { LevelConfig.standard with levels := 1 } ⟨48.7, 9.15⟩ =
      .error ⟨⟨48.7, 9.15⟩, 1⟩ ∧ 1 < (resolve twoAround).insideBands.length := by
  have hc : (resolve fourStacked).compact { LevelConfig.standard with levels := 2 } ⟨48.7, 9.15⟩ = .ok _ :=
    compact_eq_ok_iff.mpr ⟨rfl, by decide +kernel⟩
  have hx : (resolve twoAround).compact { LevelConfig.standard with levels := 1 } ⟨48.7, 9.15⟩ =
      .error ⟨⟨48.7, 9.15⟩, 1⟩ := compact_eq_error_iff.mpr ⟨rfl, by decide +kernel⟩
  obtain ⟨hselect, -, hchosen, -⟩ := compact_selects { LevelConfig.standard with levels := 2 } ⟨48.7, 9.15⟩
    (resolve fourStacked)
  obtain ⟨-, hfits, -, -⟩ := compact_selects .standard ⟨48.7, 9.15⟩ (resolve fourStacked)
  obtain ⟨-, -, -, hgiven⟩ := compact_selects { LevelConfig.standard with levels := 1 } ⟨48.7, 9.15⟩
    (resolve twoAround)
  exact ⟨⟨_, hc, (hselect _ hc).1, (hselect _ hc).2.1, hchosen fourStacked _ rfl hc⟩,
    hfits (by decide +kernel), hx, (hgiven _ hx).2⟩

end AirspaceRaster.HeightBands
