import AirspaceRaster.Proofs.Band.Choice
import AirspaceRaster.Proofs.Band.Lookup
import AirspaceRaster.Band.Compaction

/-! Shedding airspaces. The farthest airspace that does not contain the point goes with all its bands,
    again and again, until there are few enough or no such airspace is left. What one removal keeps, the
    whole process keeps. -/

namespace AirspaceRaster.HeightBands
variable {R : Type} {table : AirspaceTable R} {b c : HeightBands table} {v : AirspaceVector table}
  {e f : Altitude × AirspaceVector table}

theorem mem_without : e ∈ (b.without v).toList ↔ e ∈ b.toList ∧ e.2.index ≠ v.index := by
  simp [without, filter, restrict, AirspaceVector.sameAirspace]

theorem without_sublist : (b.without v).toList.Sublist b.toList :=
  List.filter_sublist

variable [Scalar R] {levels : Nat} {point : Point R} {x : BudgetExceeded R}

theorem farthestOutside?_eq_none_iff : b.farthestOutside? = none ↔ ∀ e ∈ b.toList, e.2.inside = true := by
  rw [farthestOutside?, AirspaceVector.farthest?, winner_eq_none, List.filter_eq_nil_iff, vectors,
    List.forall_mem_map]
  simp

theorem mem_of_farthestOutside? (hv : b.farthestOutside? = some v) :
    (∃ k, (k, v) ∈ b.toList) ∧ v.inside = false := by
  obtain ⟨hmem, hi⟩ := List.mem_filter.mp (mem_of_winner hv)
  obtain ⟨⟨k, w⟩, hk, rfl⟩ := List.mem_map.mp hmem
  exact ⟨⟨k, hk⟩, by simpa using hi⟩

/-- What holds of the bands and outlasts every removal from too many of them holds of what is left, and
    then there are few enough bands or all of them contain the point. -/
theorem shed_induction {P : HeightBands table → Prop} (hb : P b)
    (step : ∀ c v, P c → levels < c.size → c.farthestOutside? = some v → P (c.without v)) :
    P (b.shed levels).2 ∧
      ((b.shed levels).2.size ≤ levels ∨ ∀ e ∈ (b.shed levels).2.toList, e.2.inside = true) := by
  fun_induction shed levels b with
  | case1 b hs => exact ⟨hb, Or.inl hs⟩
  | case2 b hs hn => exact ⟨hb, Or.inr (farthestOutside?_eq_none_iff.mp hn)⟩
  | case3 b hs v hv _ dropped rest hrest ih =>
    rw [hrest] at ih
    exact ih (step b v hb (by omega) hv)

theorem size_shed_le_or :
    (b.shed levels).2.size ≤ levels ∨ ∀ e ∈ (b.shed levels).2.toList, e.2.inside = true :=
  (shed_induction (P := fun _ => True) trivial fun _ _ _ _ _ => trivial).2

theorem shed_sublist : (b.shed levels).2.toList.Sublist b.toList :=
  (shed_induction (P := fun c => c.toList.Sublist b.toList) (.refl b.toList)
    fun _ _ hc _ _ => without_sublist.trans hc).1

theorem shed_subset : (b.shed levels).2.toList ⊆ b.toList :=
  shed_sublist.subset

theorem shed_of_size_le (hs : b.size ≤ levels) : (b.shed levels).2 = b := by
  rw [shed, if_pos hs]

theorem shed_of_inside (hi : ∀ e ∈ b.toList, e.2.inside = true) : (b.shed levels).2 = b := by
  have hnone := farthestOutside?_eq_none_iff.mpr hi
  rw [shed]
  split
  · rfl
  · split
    · rfl
    · rename_i v hv
      rw [hnone] at hv
      cases hv

/-- From too many bands the farthest airspace goes, and then it is shed from the rest. -/
theorem shed_of_farthestOutside? (hs : levels < b.size) (hv : b.farthestOutside? = some v) :
    (b.shed levels).2 = ((b.without v).shed levels).2 := by
  rw [shed, if_neg (not_le_of_gt hs)]
  split
  · rename_i hnone
    rw [hnone] at hv
    cases hv
  · rename_i w hw
    rw [hv] at hw
    cases hw
    rfl

/-- A band that contains the point is never taken away, unless its airspace also has one that does not. -/
theorem mem_shed_of_inside (hflag : ∀ e ∈ b.toList, ∀ f ∈ b.toList, e.2.index = f.2.index →
    e.2.inside = f.2.inside) (he : e ∈ b.toList) (hi : e.2.inside = true) :
    e ∈ (b.shed levels).2.toList := by
  refine (shed_induction (P := fun c => c.toList ⊆ b.toList ∧ e ∈ c.toList) ⟨fun _ he => he, he⟩ ?_).1.2
  rintro c v ⟨hsub, hmem⟩ - hv
  obtain ⟨⟨k, hk⟩, hout⟩ := mem_of_farthestOutside? hv
  refine ⟨fun f hf => hsub (mem_without.mp hf).1, mem_without.mpr ⟨hmem, fun hidx => ?_⟩⟩
  have := hflag e he (k, v) (hsub hk) hidx
  rw [hi, hout] at this
  cases this

theorem trim_eq_ok_iff : b.trim levels point = .ok c ↔ c = (b.shed levels).2 ∧ c.size ≤ levels := by
  rw [trim]
  split
  · rename_i hs
    constructor
    · intro h
      cases h
      exact ⟨rfl, hs⟩
    · rintro ⟨rfl, -⟩
      rfl
  · rename_i hs
    refine iff_of_false (fun h => nomatch h) ?_
    rintro ⟨rfl, hc⟩
    exact hs hc

theorem trim_eq_error_iff : b.trim levels point = .error x ↔
    x = ⟨point, levels⟩ ∧ levels < (b.shed levels).2.size := by
  rw [trim]
  split
  · rename_i hs
    constructor
    · intro h
      cases h
    · rintro ⟨-, hlt⟩
      exact absurd hs (not_le_of_gt hlt)
  · rename_i hs
    rw [Except.error.injEq, eq_comm]
    exact (and_iff_left (lt_of_not_ge hs)).symm

end AirspaceRaster.HeightBands
