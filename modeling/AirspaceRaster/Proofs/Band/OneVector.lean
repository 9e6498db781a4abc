import AirspaceRaster.Proofs.Band.FirstBest
import AirspaceRaster.Proofs.Band.Shedding

/-! One vector for each airspace. A list may hold several vectors of an airspace. They all cover the same altitudes,
    so wherever the sweep chooses the airspace it chooses the first of the best ones among them. The bands of an
    airspace therefore hold one element of the list, and shedding an airspace that does not contain the point takes
    no band away that does. -/

namespace AirspaceRaster

namespace AirspaceVector
open Sweep

variable {R : Type} [Scalar R] {table : AirspaceTable R} {vs : List (AirspaceVector table)} {h : Altitude}
  {v w : AirspaceVector table} {i j : Nat}

def BestOfAirspace (vs : List (AirspaceVector table)) (v : AirspaceVector table) : Prop :=
  ∀ w ∈ vs, w.index = v.index → NoWorse v w

instance : Decidable (BestOfAirspace vs v) :=
  inferInstanceAs (Decidable (∀ w ∈ vs, _))

/-- Place `i` of a list holds `v`, and no vector before it is as good a vector of the same airspace. -/
structure FirstOfAirspace (vs : List (AirspaceVector table)) (i : Nat) (v : AirspaceVector table) : Prop where
  at_place : vs[i]? = some v
  best : BestOfAirspace vs v
  first : ∀ j < i, ∀ w, vs[j]? = some w → w.index = v.index → ¬BestOfAirspace vs w

theorem FirstOfAirspace.unique (hv : FirstOfAirspace vs i v) (hw : FirstOfAirspace vs j w)
    (hidx : v.index = w.index) : i = j ∧ v = w := by
  rcases lt_trichotomy i j with hij | rfl | hji
  · exact absurd hv.best (hw.first i hij v hv.at_place hidx)
  · exact ⟨rfl, Option.some.inj (hv.at_place.symm.trans hw.at_place)⟩
  · exact absurd hw.best (hv.first j hji w hw.at_place hidx.symm)

/-- What is chosen at an altitude is the first of the best vectors of its airspace, which does not depend on the
    altitude any more. -/
theorem FirstBestAt.firstOfAirspace [Scalar.Ordered R] (hv : FirstBestAt vs h i v) : FirstOfAirspace vs i v := by
  obtain ⟨hplace, ⟨hcovers, hbest⟩, hfirst⟩ := hv
  refine ⟨hplace, ?_, ?_⟩
  · intro w hw hidx
    exact hbest w hw ((covers_eq_of_index hidx).trans hcovers)
  · intro j hj w hw hidx hwbest
    have hwv : NoWorse w v := hwbest v (List.mem_of_getElem? hplace) hidx.symm
    refine hfirst j hj w hw ⟨(covers_eq_of_index hidx).trans hcovers, ?_⟩
    intro u hu hc
    exact hwv.trans (hbest u hu hc)

end AirspaceVector

namespace Sweep
open AirspaceVector

variable {R : Type} [Scalar R] {table : AirspaceTable R} {vs : List (AirspaceVector table)}
  {b : HeightBands table} {e f : Altitude × AirspaceVector table}

theorem mem_without_of_inside (hb : b.toList ⊆ (resolve vs).toList) (hf : f ∈ b.toList)
    (hout : f.2.inside = false) (he : e ∈ b.toList) (hin : e.2.inside = true) : e ∈ (b.without f.2).toList := by
  rw [HeightBands.mem_without]
  refine ⟨he, ?_⟩
  intro hidx
  have hsame := inside_eq_of_index (hb he) (hb hf) hidx
  rw [hin, hout] at hsame
  cases hsame

/-- Bands of the sweep that have one airspace hold the same element of the list: the first of the best vectors of
    this airspace, which is chosen at both altitudes. In whatever part of the bands, a band that has the point inside
    outlasts the removal of any airspace that a band has outside, and so it is still there when all has been shed. -/
theorem resolve_firstOfAirspace [Scalar.Ordered R] (hd : Defined vs) :
    (∀ e ∈ (resolve vs).toList, ∀ f ∈ (resolve vs).toList, e.2.sameAirspace f.2 = true →
      (∃ i, FirstOfAirspace vs i e.2 ∧ FirstBestAt vs e.1 i e.2 ∧ FirstBestAt vs f.1 i f.2) ∧
      e.2.distance = f.2.distance ∧ e.2.inside = f.2.inside ∧
      ∀ config, LevelDescriptor.encode config e.2 = LevelDescriptor.encode config f.2) ∧
    ∀ b : HeightBands table, b.toList ⊆ (resolve vs).toList → ∀ e ∈ b.toList, e.2.inside = true →
      (∀ f ∈ b.toList, f.2.inside = false → e ∈ (b.without f.2).toList) ∧
      ∀ levels, e ∈ (b.shed levels).2.toList := by
  constructor
  · intro e he f hf hsame
    obtain ⟨i, hi⟩ := exists_firstBestAt hd (mem_resolve.mp he).2
    obtain ⟨j, hj⟩ := exists_firstBestAt hd (mem_resolve.mp hf).2
    obtain ⟨rfl, heq⟩ := hi.firstOfAirspace.unique hj.firstOfAirspace (sameAirspace_iff.mp hsame)
    refine ⟨⟨i, hi.firstOfAirspace, hi, hj⟩, ?_⟩
    rw [heq]
    exact ⟨rfl, rfl, fun config => rfl⟩
  · intro b hb e he hin
    constructor
    · intro f hf hout
      exact mem_without_of_inside hb hf hout he hin
    · intro levels
      have hflag : ∀ e ∈ b.toList, ∀ f ∈ b.toList, e.2.index = f.2.index → e.2.inside = f.2.inside :=
        fun e he f hf hidx => inside_eq_of_index (hb he) (hb hf) hidx
      exact HeightBands.mem_shed_of_inside hflag he hin

/-- A high airspace around the point with four vectors, which a near one beside the point hides in the middle, and
    one beside it all on top. -/
def fourOfOne : List (AirspaceVector (.ofBands [(0, 5000), (1000, 2000), (5000, 6000)] : AirspaceTable Float)) :=
  [.measured ⟨0, by decide⟩ 50 90 false, .measured ⟨0, by decide⟩ 700 0 true, .measured ⟨2, by decide⟩ 900 45 false,
    .measured ⟨0, by decide⟩ 300 180 true, .measured ⟨1, by decide⟩ 100 270 true,
    .measured ⟨0, by decide⟩ 300 225 true]

theorem resolve_firstOfAirspace_fourOfOne : Defined fourOfOne ∧
    (∃ i, FirstOfAirspace fourOfOne i (.measured ⟨0, by decide⟩ 300 180 true)) ∧
    (⟨2000, .sea⟩, .measured ⟨0, by decide⟩ 300 180 true) ∈ ((resolve fourOfOne).shed 3).2.toList := by
  have hd : Defined fourOfOne := by decide
  obtain ⟨hone, hshed⟩ := resolve_firstOfAirspace hd
  have hlow : (⟨0, .sea⟩, .measured ⟨0, by decide⟩ 300 180 true) ∈ (resolve fourOfOne).toList := by decide +kernel
  have hhigh : (⟨2000, .sea⟩, .measured ⟨0, by decide⟩ 300 180 true) ∈ (resolve fourOfOne).toList := by
    decide +kernel
  obtain ⟨⟨i, hi, -⟩, -⟩ := hone _ hlow _ hhigh (by decide)
  exact ⟨hd, ⟨i, hi⟩, (hshed _ (List.Subset.refl _) _ hhigh rfl).2 3⟩

end Sweep

end AirspaceRaster
