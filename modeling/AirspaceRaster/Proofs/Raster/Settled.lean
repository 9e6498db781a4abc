import AirspaceRaster.Number.Binary64
import AirspaceRaster.Proofs.Band.Alternation
import AirspaceRaster.Proofs.Number.Place
import AirspaceRaster.Raster.PointRecord

/-! Reducing the levels of a point once more. Compaction leaves exactly those bands as they are that fit into
    the levels and have no two neighbours of one airspace. What it makes of the bands of a sweep is of this
    kind, although repetitions are only dropped before the other bands go. -/

namespace AirspaceRaster
open AirspaceVector HeightBands Sweep

section Lists
variable {α : Type} {related : α → α → Bool} {a : α} {l : List α}

theorem thinAfter_eq_self (h : (a :: l).IsChain fun e f => related e f = false) : thinAfter related a l = l := by
  induction l generalizing a with
  | nil => rfl
  | cons b l ih =>
    obtain ⟨hab, hrest⟩ := List.isChain_cons_cons.mp h
    rw [thinAfter, hab, if_neg Bool.false_ne_true, ih hrest]

/-- Nothing is dropped exactly if no two neighbours are related. -/
theorem thin_eq_self_iff : thin related l = l ↔ l.IsChain fun e f => related e f = false := by
  constructor
  · intro h
    rw [← h]
    exact isChain_thin related l
  · intro h
    cases l with
    | nil => rfl
    | cons a l => rw [thin, thinAfter_eq_self h]

end Lists

namespace HeightBands
variable {R : Type} {table : AirspaceTable R} {b : HeightBands table}

theorem dropRepeated_eq_self_iff : b.dropRepeated = b ↔ b.Alternating := by
  constructor
  · intro h
    rw [← h]
    exact alternating_dropRepeated
  · intro h
    refine ext_toList (thin_eq_self_iff.mpr (h.imp fun e f hne => ?_))
    exact Bool.eq_false_iff.mpr fun hsame => hne (sameAirspace_iff.mp hsame)

variable [Scalar R] {config : LevelConfig R} {point : Point R}

/-- Compaction leaves bands as they are exactly if there is room for them and no two neighbours have the same
    airspace. -/
theorem compact_eq_ok_self_iff : b.compact config point = .ok b ↔ b.Alternating ∧ b.size ≤ config.levels := by
  constructor
  · intro h
    obtain ⟨hb, hsize⟩ := compact_eq_ok_iff.mp h
    refine ⟨dropRepeated_eq_self_iff.mp (eq_of_mem_iff fun e => ⟨fun he => dropRepeated_subset he, fun he => ?_⟩),
      hsize⟩
    rw [hb] at he
    exact merged_subset (shed_subset he)
  · rintro ⟨halt, hsize⟩
    have hsame : b.dropRepeated = b := dropRepeated_eq_self_iff.mpr halt
    have hok : b.compact config point = .ok b.dropRepeated := compact_of_size_le (by rwa [hsame])
    rwa [hsame] at hok

end HeightBands

namespace PointRecord
variable {R : Type} [Scalar R] [Scalar.Ordered R] {table : AirspaceTable R} {vs : List (AirspaceVector table)}
  {config : LevelConfig R} {point : Point R} {b : HeightBands table}

theorem alternating_levels (hd : Defined vs) (hb : levels config point vs = .ok b) : b.Alternating := by
  obtain ⟨rfl, -⟩ := compact_eq_ok_iff.mp hb
  exact alternating_shed hd merged_subset_self (alternating_merged hd)

/-- No two neighbouring levels of a point have the same airspace, so reducing them once more changes nothing. -/
theorem compact_levels (hd : Defined vs) (hb : levels config point vs = .ok b) :
    b.Alternating ∧ ∀ p, b.compact config p = .ok b := by
  have halt := alternating_levels hd hb
  have hsize : b.size ≤ config.levels := (compact_eq_ok_iff.mp hb).2
  exact ⟨halt, fun p => compact_eq_ok_self_iff.mpr ⟨halt, hsize⟩⟩

/-- Twice a wide airspace with a narrow one within: the lower narrow one looks like its wide one, and the
    upper wide one is farther away than its narrow one. -/
def twoNested : List (AirspaceVector
    (.ofBands [(0, 3000), (1000, 2000), (4000, 7000), (5000, 6000)] : AirspaceTable Float)) :=
  [.measured ⟨0, by decide⟩ 500 90 false, .measured ⟨1, by decide⟩ 490 93 false,
    .measured ⟨2, by decide⟩ 900 0 false, .measured ⟨3, by decide⟩ 300 180 false]

theorem compact_levels_twoNested : (resolve twoNested).size = 6 ∧ ∃ b,
    levels { LevelConfig.standard with levels := 2 } ⟨48.7, 9.15⟩ twoNested = .ok b ∧
    b.keys = [⟨0, .sea⟩, ⟨5000, .sea⟩] ∧ b.Alternating ∧
    ∀ p, b.compact { LevelConfig.standard with levels := 2 } p = .ok b := by
  have hb : levels { LevelConfig.standard with levels := 2 } ⟨48.7, 9.15⟩ twoNested = .ok _ :=
    compact_eq_ok_iff.mpr ⟨rfl, by decide +kernel⟩
  have hd : Defined twoNested := by decide
  exact ⟨by decide +kernel, _, hb, by decide +kernel, compact_levels hd hb⟩

end PointRecord

end AirspaceRaster
