import Mathlib.Data.Finset.Card
import AirspaceRaster.Proofs.Band.Alternation

/-! Where the bands with the point inside start. As long as such an airspace is chosen the others do not
    matter, so without repetitions each of these bands starts where an airspace with the point inside
    begins or ends. Hence there are fewer of them than floors and ceilings of these airspaces, but there
    may be more of them than airspaces: a wide one comes back above a narrow one within it. -/

namespace AirspaceRaster
open AirspaceVector HeightBands Sweep

variable {R : Type} {table : AirspaceTable R} {vs : List (AirspaceVector table)} {b : HeightBands table}
  {e : Altitude × AirspaceVector table} {v : AirspaceVector table} {h s x : Altitude}

def AirspaceVector.insideAirspaces (vs : List (AirspaceVector table)) : Finset (Fin table.size) :=
  ((vs.filter (·.inside)).map (·.index)).toFinset

def HeightBands.insideBands (b : HeightBands table) : List (Altitude × AirspaceVector table) :=
  b.toList.filter (·.2.inside)

theorem AirspaceVector.mem_insideAirspaces {i : Fin table.size} :
    i ∈ insideAirspaces vs ↔ ∃ v ∈ vs, v.inside = true ∧ v.index = i := by
  simp [insideAirspaces, and_assoc]

theorem HeightBands.mem_insideBands : e ∈ b.insideBands ↔ e ∈ b.toList ∧ e.2.inside = true :=
  List.mem_filter

namespace Sweep

theorem mem_limits_inside : x ∈ limits (vs.filter (·.inside)) ↔
    ∃ v ∈ vs, v.inside = true ∧ (x = v.floor ∨ x = v.ceiling) := by
  simp [mem_limits, and_assoc]

theorem card_limits_inside_le :
    (limits (vs.filter (·.inside))).toFinset.card ≤ 2 * (insideAirspaces vs).card := by
  have hsub : (limits (vs.filter (·.inside))).toFinset ⊆
      (insideAirspaces vs).image (fun i => table[i].floor) ∪
        (insideAirspaces vs).image (fun i => table[i].ceiling) := by
    intro x hx
    obtain ⟨v, hv, hi, hx⟩ := mem_limits_inside.mp (List.mem_toFinset.mp hx)
    have hmem : v.index ∈ insideAirspaces vs := mem_insideAirspaces.mpr ⟨v, hv, hi, rfl⟩
    rcases hx with rfl | rfl
    · exact Finset.mem_union_left _ (Finset.mem_image.mpr ⟨v.index, hmem, rfl⟩)
    · exact Finset.mem_union_right _ (Finset.mem_image.mpr ⟨v.index, hmem, rfl⟩)
  calc (limits (vs.filter (·.inside))).toFinset.card
      ≤ _ := Finset.card_le_card hsub
    _ ≤ _ := Finset.card_union_le ..
    _ ≤ (insideAirspaces vs).card + (insideAirspaces vs).card :=
      Nat.add_le_add Finset.card_image_le Finset.card_image_le
    _ = 2 * (insideAirspaces vs).card := by omega

/-- Below an altitude above some limit there is a last limit. -/
theorem exists_last_limit (hx : x ∈ limits vs) (hlt : x < h) :
    ∃ s ∈ limits vs, s < h ∧ ∀ y ∈ limits vs, y < h → y ≤ s := by
  obtain ⟨s, hs⟩ := exists_highest? (List.mem_filter.mpr ⟨hx, by simpa using hlt⟩ : x ∈ (limits vs).filter (· < h))
  obtain ⟨hmem, hsh⟩ := List.mem_filter.mp (mem_of_highest? hs)
  exact ⟨s, hmem, by simpa using hsh, fun y hy hyh =>
    le_of_highest? hs (List.mem_filter.mpr ⟨hy, by simpa using hyh⟩)⟩

/-- An airspace that neither begins nor ends at an altitude covers it if it covers the last limit below. -/
theorem covers_eq_of_last_limit (hsh : s < h) (hs : ∀ y ∈ limits vs, y < h → y ≤ s) (hv : v ∈ vs)
    (hfloor : v.floor ≠ h) (hceiling : v.ceiling ≠ h) : v.covers s = v.covers h := by
  have hf := hs v.floor (mem_limits.mpr ⟨v, hv, Or.inl rfl⟩)
  have hc := hs v.ceiling (mem_limits.mpr ⟨v, hv, Or.inr rfl⟩)
  rw [Bool.eq_iff_iff, covers_iff, covers_iff]
  constructor
  · rintro ⟨hvs, hsv⟩
    refine ⟨le_trans hvs (le_of_lt hsh), lt_of_not_ge fun hle => ?_⟩
    exact not_le_of_gt hsv (hc (lt_of_le_of_ne hle hceiling))
  · rintro ⟨hvh, hhv⟩
    exact ⟨hf (lt_of_le_of_ne hvh hfloor), lt_trans hsh hhv⟩

variable [Scalar R]

theorem chosenAt?_of_inside (hv : chosenAt? vs h = some v) (hi : v.inside = true)
    (hc : ∀ u ∈ vs, u.inside = true → u.covers s = u.covers h) : chosenAt? vs s = some v := by
  have hfilter : (covering vs s).filter (·.inside) = vs.filter fun u => u.covers h && u.inside == v.inside := by
    rw [covering, List.filter_filter]
    refine List.filter_congr fun u hu => ?_
    cases hui : u.inside with
    | false => simp [hi]
    | true => simp [hi, hc u hu hui]
  rw [chosenAt?, hfilter, nearest?_of_chosenAt? hv]
  rfl

/-- Without repetitions something else is chosen at the last limit below a band. -/
theorem chosenAt?_ne_of_last_limit (he : e ∈ (resolve vs).dropRepeated.toList) (hmem : s ∈ limits vs)
    (hse : s < e.1) (hs : ∀ y ∈ limits vs, y < e.1 → y ≤ s) : chosenAt? vs s ≠ some e.2 := by
  intro hcs
  have hlast : (resolve vs).last? (· ≤ s) = some (s, e.2) :=
    last?_le_eq_some_iff.mpr ⟨mem_resolve.mpr ⟨hmem, hcs⟩, le_rfl, fun f _ hf => hf⟩
  obtain ⟨f, hf, hidx⟩ := last?_dropRepeated hlast
  obtain ⟨hfmem, hfs, hfmax⟩ := last?_le_eq_some_iff.mp hf
  obtain ⟨g, hg, hfg, hge, -⟩ := alternating_dropRepeated.exists_between hfmem he (lt_of_le_of_lt hfs hse) hidx
  have hgs : g.1 ≤ s := hs g.1 (mem_resolve.mp (dropRepeated_subset hg)).1 hge
  exact not_le_of_gt hfg (hfmax g hg hgs)

/-- Without repetitions a band with the point inside starts where an airspace with the point inside
    begins or ends. -/
theorem mem_limits_of_inside (he : e ∈ (resolve vs).dropRepeated.toList) (hi : e.2.inside = true) :
    e.1 ∈ limits (vs.filter (·.inside)) := by
  by_contra hlimit
  have hne : ∀ u ∈ vs, u.inside = true → u.floor ≠ e.1 ∧ u.ceiling ≠ e.1 := fun u hu hui =>
    ⟨fun h => hlimit (mem_limits_inside.mpr ⟨u, hu, hui, Or.inl h.symm⟩),
      fun h => hlimit (mem_limits_inside.mpr ⟨u, hu, hui, Or.inr h.symm⟩)⟩
  obtain ⟨-, hce⟩ := mem_resolve.mp (dropRepeated_subset he)
  obtain ⟨hmem, hcov⟩ := mem_of_chosenAt? hce
  have hfloor : e.2.floor < e.1 := lt_of_le_of_ne (covers_iff.mp hcov).1 (hne e.2 hmem hi).1
  obtain ⟨s, hsmem, hse, hs⟩ := exists_last_limit (mem_limits.mpr ⟨e.2, hmem, Or.inl rfl⟩) hfloor
  refine chosenAt?_ne_of_last_limit he hsmem hse hs (chosenAt?_of_inside hce hi fun u hu hui => ?_)
  exact covers_eq_of_last_limit hse hs hu (hne u hu hui).1 (hne u hu hui).2

theorem length_insideBands_lt (hb : b.toList ⊆ (resolve vs).dropRepeated.toList) (hne : b.insideBands ≠ []) :
    b.insideBands.length < 2 * (insideAirspaces vs).card := by
  have hkeys : (b.insideBands.map Prod.fst).Nodup :=
    List.pairwise_map.mpr ((b.ascending.sublist List.filter_sublist).imp fun hlt => ne_of_lt hlt)
  have hband : ∀ e ∈ b.insideBands, e.1 ∈ limits (vs.filter (·.inside)) ∧
      ∃ x ∈ limits (vs.filter (·.inside)), e.1 < x := fun e he => by
    obtain ⟨hmem, hi⟩ := mem_insideBands.mp he
    obtain ⟨hvs, hcov⟩ := mem_of_chosenAt? (mem_resolve.mp (dropRepeated_subset (hb hmem))).2
    exact ⟨mem_limits_of_inside (hb hmem) hi, e.2.ceiling,
      mem_limits_inside.mpr ⟨e.2, hvs, hi, Or.inr rfl⟩, (covers_iff.mp hcov).2⟩
  have hcard := length_lt_card_of_exists_gt hkeys (by simpa using hne) fun x hx => by
    obtain ⟨e, he, rfl⟩ := List.mem_map.mp hx
    exact hband e he
  rw [List.length_map] at hcard
  exact lt_of_lt_of_le hcard card_limits_inside_le

end Sweep

end AirspaceRaster
