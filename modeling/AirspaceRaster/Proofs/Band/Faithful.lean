import AirspaceRaster.Proofs.Band.Sweep
import AirspaceRaster.Proofs.Band.Thinning
import AirspaceRaster.Proofs.Number.Place

/-! The bands as a description of all altitudes. There are only finitely many bands, yet reading them at
    any altitude tells what is chosen there, also after the repetitions have been dropped. -/

namespace AirspaceRaster.Sweep
open AirspaceVector

variable {R : Type} [Scalar R] {table : AirspaceTable R} {vs : List (AirspaceVector table)}
  {b : HeightBands table} {h : Altitude} {v : AirspaceVector table}

theorem lookup?_eq_of_subset (hb : b.toList ⊆ (resolve vs).toList)
    (hlast : ∀ v, chosenAt? vs h = some v → ∃ k, b.last? (· ≤ h) = some (k, v)) :
    b.lookup? h = chosenAt? vs h := by
  cases hv : chosenAt? vs h with
  | some v =>
    obtain ⟨k, hk⟩ := hlast v hv
    exact HeightBands.lookup?_eq_some_iff.mpr ⟨k, hk, (mem_of_chosenAt? hv).2⟩
  | none =>
    rw [Option.eq_none_iff_forall_ne_some]
    intro v hl
    obtain ⟨k, hk, hc⟩ := HeightBands.lookup?_eq_some_iff.mp hl
    have hmem := mem_resolve.mp (hb (HeightBands.last?_le_eq_some_iff.mp hk).1)
    have := chosenAt?_eq_none_iff.mp hv v (mem_of_chosenAt? hmem.2).1
    rw [this] at hc
    cases hc

/-- At every altitude the bands of the sweep hold what is chosen there, and so do these bands without
    repetitions. -/
theorem lookup?_resolve [Scalar.Ordered R] (hd : Defined vs) (h : Altitude) :
    (resolve vs).lookup? h = chosenAt? vs h ∧ (resolve vs).dropRepeated.lookup? h = chosenAt? vs h := by
  refine ⟨lookup?_eq_of_subset (fun _ he => he) fun v hv => last?_resolve hv,
    lookup?_eq_of_subset HeightBands.dropRepeated_subset fun v hv => ?_⟩
  obtain ⟨k, hk⟩ := last?_resolve hv
  obtain ⟨⟨k', v'⟩, hk', hi⟩ := HeightBands.last?_dropRepeated hk
  have hmem := (HeightBands.last?_le_eq_some_iff.mp hk).1
  have hmem' := HeightBands.dropRepeated_subset (HeightBands.last?_le_eq_some_iff.mp hk').1
  obtain rfl : v' = v := eq_of_index hd hmem' hmem hi
  exact ⟨k', hk'⟩

/-- A narrow band within a wide one of an airspace farther away. -/
def narrowInWide : List (AirspaceVector (.ofBands [(0, 3000), (1000, 2000)] : AirspaceTable Float)) :=
  [.measured ⟨0, by decide⟩ 500 90 false, .measured ⟨1, by decide⟩ 100 180 false]

/-- The bands hold the narrow one where it is, and above it the wide one again. -/
theorem lookup?_resolve_narrowInWide : Defined narrowInWide ∧
    ((resolve narrowInWide).lookup? ⟨1500, .sea⟩ = some (.measured ⟨1, by decide⟩ 100 180 false) ∧
      (resolve narrowInWide).dropRepeated.lookup? ⟨1500, .sea⟩ = some (.measured ⟨1, by decide⟩ 100 180 false)) ∧
    (resolve narrowInWide).lookup? ⟨2500, .sea⟩ = some (.measured ⟨0, by decide⟩ 500 90 false) ∧
    (resolve narrowInWide).dropRepeated.lookup? ⟨2500, .sea⟩ = some (.measured ⟨0, by decide⟩ 500 90 false) := by
  have hd : Defined narrowInWide := by decide
  have hnarrow : chosenAt? narrowInWide ⟨1500, .sea⟩ = some (.measured ⟨1, by decide⟩ 100 180 false) := by
    decide +kernel
  have hwide : chosenAt? narrowInWide ⟨2500, .sea⟩ = some (.measured ⟨0, by decide⟩ 500 90 false) := by
    decide +kernel
  rw [← hnarrow, ← hwide]
  exact ⟨hd, lookup?_resolve hd _, lookup?_resolve hd _⟩

end AirspaceRaster.Sweep
