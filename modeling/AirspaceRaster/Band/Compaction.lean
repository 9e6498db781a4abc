import AirspaceRaster.Band.Choice
import AirspaceRaster.Band.HeightBands
import AirspaceRaster.Band.Thinning
import AirspaceRaster.Level.Descriptor

/-! Reducing the bands above a point to the levels of a record. First the bands that repeat the
    airspace below them go. If that is not enough, so do those that look like the band below them in
    the record. If that is not enough either, the farthest airspaces that do not contain the point go
    one by one, and if none of these is left there is no room for what the pilot has to know. -/

namespace AirspaceRaster

/-- More bands than levels are left, and all of them contain the point. -/
structure BudgetExceeded (R : Type) where
  point : Point R
  levels : Nat
  deriving Repr

namespace HeightBands
variable {R : Type} [Scalar R] {table : AirspaceTable R}

/-- The bands without those that repeat the airspace of the band kept below them. -/
def dropRepeated (b : HeightBands table) : HeightBands table :=
  b.restrict (thin (fun e f => e.2.sameAirspace f.2) b.toList) (thin_sublist ..)

/-- The bands without those that look like the band kept below them. -/
def dropAlike (config : LevelConfig R) (b : HeightBands table) : HeightBands table :=
  b.restrict
    (thin (fun e f => (LevelDescriptor.encode config e.2).looksLike config.bearingTolerance
      (LevelDescriptor.encode config f.2)) b.toList)
    (thin_sublist ..)

/-- The farthest of the airspaces that do not contain the point, the lowest one on a tie. -/
def farthestOutside? (b : HeightBands table) : Option (AirspaceVector table) :=
  AirspaceVector.farthest? (b.vectors.filter (!·.inside))

/-- The bands without those of one airspace. -/
def without (b : HeightBands table) (v : AirspaceVector table) : HeightBands table :=
  b.filter fun w => !w.sameAirspace v

theorem size_without_lt {b : HeightBands table} {v : AirspaceVector table}
    (h : b.farthestOutside? = some v) : (b.without v).size < b.size := by
  have hmem := (List.mem_filter.mp (mem_of_winner h)).1
  obtain ⟨e, he, rfl⟩ := List.mem_map.mp hmem
  show (b.toList.filter fun f => !f.2.sameAirspace e.2).length < b.toList.length
  rw [List.length_filter_lt_length_iff_exists]
  exact ⟨e, he, by simp [AirspaceVector.sameAirspace]⟩

/-- What is left when as many of the farthest airspaces as necessary have been dropped, and the
    dropped ones in order. There may be too many bands left if there is nothing more to drop. -/
def shed (levels : Nat) (b : HeightBands table) : List (AirspaceVector table) × HeightBands table :=
  if b.size ≤ levels then ([], b)
  else match h : b.farthestOutside? with
    | none => ([], b)
    | some v =>
      have := size_without_lt h
      let (dropped, rest) := shed levels (b.without v)
      (v :: dropped, rest)
termination_by b.size

/-- The bands without the farthest airspaces that do not contain the point, as many as necessary. -/
def trim (levels : Nat) (point : Point R) (b : HeightBands table) :
    Except (BudgetExceeded R) (HeightBands table) :=
  let rest := (b.shed levels).2
  if rest.size ≤ levels then .ok rest else .error ⟨point, levels⟩

/-- The bands before the farthest airspaces are dropped: without repetitions, and if there are more
    than levels also without those that look alike. -/
def merged (config : LevelConfig R) (b : HeightBands table) : HeightBands table :=
  let unique := b.dropRepeated
  if config.levels < unique.size then unique.dropAlike config else unique

/-- The bands reduced to the levels of a record. -/
def compact (config : LevelConfig R) (point : Point R) (b : HeightBands table) :
    Except (BudgetExceeded R) (HeightBands table) :=
  (b.merged config).trim config.levels point

end HeightBands

end AirspaceRaster
