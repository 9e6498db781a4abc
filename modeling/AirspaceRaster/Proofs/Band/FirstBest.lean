import AirspaceRaster.Number.Binary64
import AirspaceRaster.Proofs.Band.Rivals
import AirspaceRaster.Proofs.Number.Place

/-! What is chosen, by rank. Vectors are ranked by whether the point is inside and, where they agree on that, by
    distance. Looking for the nearest vector inside and, if there is none, for the nearest one at all finds the
    first of the best vectors in this order, whichever of them cover the altitude. -/

namespace AirspaceRaster.AirspaceVector

variable {R : Type} [Scalar R] {table : AirspaceTable R} {vs : List (AirspaceVector table)} {h : Altitude}
  {u v w : AirspaceVector table} {i j : Nat}

/-- Inside goes before outside, and at the same side of the boundary the smaller distance goes first. -/
def NoWorse (v w : AirspaceVector table) : Prop :=
  v.inside = true ∧ w.inside = false ∨ v.inside = w.inside ∧ v.distance ≤ w.distance

instance : Decidable (NoWorse v w) :=
  inferInstanceAs (Decidable (_ ∨ _))

/-- A vector covers an altitude and is no worse than any other one that covers it. -/
def BestAt (vs : List (AirspaceVector table)) (h : Altitude) (v : AirspaceVector table) : Prop :=
  v.covers h = true ∧ ∀ w ∈ vs, w.covers h = true → NoWorse v w

instance : Decidable (BestAt vs h v) :=
  inferInstanceAs (Decidable (_ ∧ _))

/-- Place `i` of a list holds `v`, and no best vector for the altitude stands before it. -/
structure FirstBestAt (vs : List (AirspaceVector table)) (h : Altitude) (i : Nat) (v : AirspaceVector table) :
    Prop where
  at_place : vs[i]? = some v
  best : BestAt vs h v
  first : ∀ j < i, ∀ w, vs[j]? = some w → ¬BestAt vs h w

theorem FirstBestAt.unique (hv : FirstBestAt vs h i v) (hw : FirstBestAt vs h j w) : i = j ∧ v = w := by
  rcases lt_trichotomy i j with hij | rfl | hji
  · exact absurd hv.best (hw.first i hij v hv.at_place)
  · exact ⟨rfl, Option.some.inj (hv.at_place.symm.trans hw.at_place)⟩
  · exact absurd hw.best (hv.first j hji w hw.at_place)

section Ordered
variable [Scalar.Ordered R]

theorem NoWorse.trans (huv : NoWorse u v) (hvw : NoWorse v w) : NoWorse u w := by
  rcases huv with ⟨hu, hv⟩ | ⟨huv, hduv⟩
  · rcases hvw with ⟨hv', -⟩ | ⟨hvw, -⟩
    · rw [hv] at hv'
      cases hv'
    · exact Or.inl ⟨hu, hvw ▸ hv⟩
  · rcases hvw with ⟨hv, hw⟩ | ⟨hvw, hdvw⟩
    · exact Or.inl ⟨huv.trans hv, hw⟩
    · exact Or.inr ⟨huv.trans hvw, Scalar.Ordered.le_trans hduv hdvw⟩

theorem bestAt_of_chosenAt? (hd : Defined vs) (hv : chosenAt? vs h = some v) : BestAt vs h v := by
  refine ⟨(mem_of_chosenAt? hv).2, ?_⟩
  intro w hw hc
  by_cases hi : w.inside = v.inside
  · exact Or.inr ⟨hi.symm, distance_le_of_chosenAt? hd hv hw hc hi⟩
  · have hout : w.inside = false := by
      rw [← Bool.not_eq_true]
      intro hin
      exact hi (hin.trans (inside_of_chosenAt? hv hw hc hin).symm)
    rw [hout] at hi
    exact Or.inl ⟨by simpa using Ne.symm hi, hout⟩

theorem isRival_iff_bestAt (hd : Defined vs) (hv : chosenAt? vs h = some v) (hu : u ∈ vs) :
    isRival h v u = true ↔ BestAt vs h u := by
  obtain ⟨hmem, hc⟩ := mem_of_chosenAt? hv
  have hbest := bestAt_of_chosenAt? hd hv
  rw [isRival_iff]
  constructor
  · rintro ⟨huc, hi, hle⟩
    have huv : NoWorse u v := Or.inr ⟨hi, hle⟩
    exact ⟨huc, fun w hw hwc => huv.trans (hbest.2 w hw hwc)⟩
  · rintro ⟨huc, hu'⟩
    rcases hu' v hmem hc with ⟨hin, hout⟩ | ⟨hi, hle⟩
    · rw [inside_of_chosenAt? hv hu huc hin] at hout
      cases hout
    · exact ⟨huc, hi, hle⟩

theorem exists_firstBestAt (hd : Defined vs) (hv : chosenAt? vs h = some v) : ∃ i, FirstBestAt vs h i v := by
  obtain ⟨-, i, hi, hiv, hbefore⟩ := List.find?_eq_some_iff_getElem.mp (find?_isRival hd hv)
  refine ⟨i, List.getElem?_eq_some_iff.mpr ⟨hi, hiv⟩, bestAt_of_chosenAt? hd hv, ?_⟩
  intro j hj w hw hbest
  obtain ⟨hjlen, rfl⟩ := List.getElem?_eq_some_iff.mp hw
  have hrival := (isRival_iff_bestAt hd hv (List.getElem_mem hjlen)).mpr hbest
  simpa [hrival] using hbefore j hj

theorem chosenAt?_eq_some_iff (hd : Defined vs) : chosenAt? vs h = some v ↔ ∃ i, FirstBestAt vs h i v := by
  constructor
  · exact exists_firstBestAt hd
  · rintro ⟨i, hi⟩
    obtain ⟨w, hw⟩ := exists_chosenAt? (List.mem_of_getElem? hi.at_place) hi.best.1
    obtain ⟨j, hj⟩ := exists_firstBestAt hd hw
    rw [hw, (hi.unique hj).2]

/-- Nothing is chosen exactly if nothing covers the altitude, and what is chosen is the first best vector. It is
    outside only if no vector that covers the altitude is inside. -/
theorem chosenAt?_firstBest (hd : Defined vs) (h : Altitude) :
    (chosenAt? vs h = none ↔ ∀ v ∈ vs, v.covers h = false) ∧
    (∀ v, chosenAt? vs h = some v ↔ ∃ i, FirstBestAt vs h i v) ∧
    ∀ v, chosenAt? vs h = some v → v.inside = false → ∀ w ∈ vs, w.covers h = true → w.inside = false := by
  refine ⟨chosenAt?_eq_none_iff, fun v => chosenAt?_eq_some_iff hd, ?_⟩
  intro v hv hout w hw hc
  rw [← Bool.not_eq_true]
  intro hin
  rw [inside_of_chosenAt? hv hw hc hin] at hout
  cases hout

end Ordered

/-- A near airspace outside, two inside at one distance, and one inside that is nearer but does not reach up. -/
def tiedInside : List (AirspaceVector
    (.ofBands [(0, 3000), (0, 3000), (1000, 3000), (0, 1000)] : AirspaceTable Float)) :=
  [.measured ⟨0, by decide⟩ 50 90 false, .measured ⟨1, by decide⟩ 400 0 true,
    .measured ⟨2, by decide⟩ 400 180 true, .measured ⟨3, by decide⟩ 100 270 true]

theorem chosenAt?_firstBest_tiedInside : Defined tiedInside ∧
    (∃ v, chosenAt? tiedInside ⟨2000, .sea⟩ = some v ∧ FirstBestAt tiedInside ⟨2000, .sea⟩ 1 v) ∧
    chosenAt? tiedInside ⟨3000, .sea⟩ = none := by
  have hd : Defined tiedInside := by decide
  obtain ⟨-, hsome, -⟩ := chosenAt?_firstBest hd ⟨2000, .sea⟩
  obtain ⟨hnone, -, -⟩ := chosenAt?_firstBest hd ⟨3000, .sea⟩
  have hfirst : FirstBestAt tiedInside ⟨2000, .sea⟩ 1 (.measured ⟨1, by decide⟩ 400 0 true) :=
    ⟨rfl, by decide, fun j hj w hw => by
      obtain rfl : j = 0 := by omega
      obtain rfl := Option.some.inj hw
      decide⟩
  exact ⟨hd, ⟨_, (hsome _).mpr ⟨1, hfirst⟩, hfirst⟩, hnone.mpr (by decide)⟩

end AirspaceRaster.AirspaceVector
