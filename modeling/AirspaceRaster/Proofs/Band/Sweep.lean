import Mathlib.Data.Finset.Card
import AirspaceRaster.Proofs.Band.Choice
import AirspaceRaster.Proofs.Band.Lookup
import AirspaceRaster.Band.Sweep

/-! What the sweep finds. It stops at every limit that lies in the band of some airspace, so its bands
    start exactly at these limits and hold what is chosen there. Between two neighbouring limits the
    same airspaces cover every altitude, hence the bands tell what is chosen at any altitude at all. -/

namespace AirspaceRaster.Sweep
open AirspaceVector

variable {R : Type} {table : AirspaceTable R} {vs : List (AirspaceVector table)} {h x top : Altitude}
  {hs : List Altitude} {v w : AirspaceVector table}

/-! ### Extreme altitudes -/

theorem mem_of_lowest? (hx : lowest? hs = some h) : h ∈ hs :=
  mem_of_winner hx

theorem mem_of_highest? (hx : highest? hs = some h) : h ∈ hs :=
  mem_of_winner hx

theorem le_of_lowest? (hx : lowest? hs = some h) (hmem : x ∈ hs) : h ≤ x := by
  have hr : IsRanking (fun best h : Altitude => decide (best ≤ h)) hs := by
    refine ⟨fun x _ y _ => by simpa using le_total x y, fun hxy hyz => ?_⟩
    simp only [decide_eq_true_eq] at *
    exact le_trans hxy hyz
  simpa using stays_of_winner hr hx hmem

theorem le_of_highest? (hx : highest? hs = some h) (hmem : x ∈ hs) : x ≤ h := by
  have hr : IsRanking (fun best h : Altitude => decide (h ≤ best)) hs := by
    refine ⟨fun x _ y _ => by simpa using le_total y x, fun hxy hyz => ?_⟩
    simp only [decide_eq_true_eq] at *
    exact le_trans hyz hxy
  simpa using stays_of_winner hr hx hmem

theorem exists_highest? (hx : x ∈ hs) : ∃ h, highest? hs = some h := by
  cases hs with
  | nil => cases hx
  | cons a l => exact ⟨_, rfl⟩

/-- Altitudes of a list, each with a higher one in it, are fewer than there are in the list. -/
theorem length_lt_card_of_exists_gt {ls : List Altitude} (hnodup : hs.Nodup) (hne : hs ≠ [])
    (hls : ∀ x ∈ hs, x ∈ ls ∧ ∃ y ∈ ls, x < y) : hs.length < ls.toFinset.card := by
  obtain ⟨x₀, hx₀⟩ := List.exists_mem_of_ne_nil _ hne
  obtain ⟨top, htop⟩ := exists_highest? (hls x₀ hx₀).1
  have hnotop : top ∉ hs := fun hmem => by
    obtain ⟨y, hy, hlt⟩ := (hls top hmem).2
    exact not_le_of_gt hlt (le_of_highest? htop hy)
  have hsub : hs.toFinset ⊂ ls.toFinset := by
    refine (Finset.ssubset_iff_of_subset fun x hx => ?_).mpr ⟨top, ?_, mt List.mem_toFinset.mp hnotop⟩
    · exact List.mem_toFinset.mpr (hls x (List.mem_toFinset.mp hx)).1
    · exact List.mem_toFinset.mpr (mem_of_highest? htop)
  rw [← List.toFinset_card_of_nodup hnodup]
  exact Finset.card_lt_card hsub

/-! ### Limits and stops -/

theorem mem_limits : x ∈ limits vs ↔ ∃ v ∈ vs, x = v.floor ∨ x = v.ceiling := by
  simp [limits]

theorem covers_iff : v.covers h = true ↔ v.floor ≤ h ∧ h < v.ceiling := by
  simp [AirspaceVector.covers, Airspace.bandContains, AirspaceVector.floor, AirspaceVector.ceiling]

/-- From `h` on the sweep stops at `h` and at every limit above it, as far as they lie below the top. -/
theorem mem_stopsFrom : x ∈ stopsFrom vs top h ↔ x < top ∧ (x = h ∨ x ∈ limits vs ∧ h < x) := by
  fun_induction stopsFrom vs top h with
  | case1 h htop n hn ih =>
    obtain ⟨hnmem, hhn⟩ := mem_of_nextLimit? hn
    have hleast : ∀ y ∈ limits vs, h < y → n ≤ y := fun y hy hhy =>
      le_of_lowest? hn (List.mem_filter.mpr ⟨hy, by simpa using hhy⟩)
    rw [List.mem_cons, ih]
    constructor
    · rintro (rfl | ⟨hx, rfl | ⟨hmem, hnx⟩⟩)
      · exact ⟨htop, Or.inl rfl⟩
      · exact ⟨hx, Or.inr ⟨hnmem, hhn⟩⟩
      · exact ⟨hx, Or.inr ⟨hmem, lt_trans hhn hnx⟩⟩
    · rintro ⟨hx, rfl | ⟨hmem, hhx⟩⟩
      · exact Or.inl rfl
      · refine Or.inr ⟨hx, ?_⟩
        rcases lt_or_eq_of_le (hleast x hmem hhx) with hnx | rfl
        · exact Or.inr ⟨hmem, hnx⟩
        · exact Or.inl rfl
  | case2 h htop hn =>
    have hnone : ∀ y ∈ limits vs, ¬ h < y := fun y hy => by
      simpa using List.filter_eq_nil_iff.mp (winner_eq_none.mp hn) y hy
    rw [List.mem_singleton]
    constructor
    · rintro rfl
      exact ⟨htop, Or.inl rfl⟩
    · rintro ⟨-, rfl | ⟨hmem, hhx⟩⟩
      · rfl
      · exact absurd hhx (hnone x hmem)
  | case3 h htop =>
    refine iff_of_false List.not_mem_nil ?_
    rintro ⟨hx, rfl | ⟨-, hhx⟩⟩
    · exact htop hx
    · exact htop (lt_trans hhx hx)

/-- The stops of the sweep are the limits that are neither below every floor nor above every ceiling. -/
theorem mem_stops : x ∈ stops vs ↔
    x ∈ limits vs ∧ (∃ v ∈ vs, v.floor ≤ x) ∧ ∃ v ∈ vs, x < v.ceiling := by
  cases vs with
  | nil => simp [stops, limits, lowestFloor?, lowest?, winner]
  | cons u us =>
    obtain ⟨low, hlow⟩ : ∃ low, lowestFloor? (u :: us) = some low := ⟨_, rfl⟩
    obtain ⟨high, hhigh⟩ : ∃ high, highestCeiling? (u :: us) = some high := ⟨_, rfl⟩
    obtain ⟨v, hv, rfl⟩ := List.mem_map.mp (mem_of_lowest? hlow)
    obtain ⟨w, hw, rfl⟩ := List.mem_map.mp (mem_of_highest? hhigh)
    simp only [stops, hlow, hhigh, mem_stopsFrom]
    constructor
    · rintro ⟨hx, hmem⟩
      refine ⟨?_, ?_, w, hw, hx⟩
      · rcases hmem with rfl | ⟨hmem, -⟩
        · exact mem_limits.mpr ⟨v, hv, Or.inl rfl⟩
        · exact hmem
      · rcases hmem with rfl | ⟨-, hlt⟩
        · exact ⟨v, hv, le_rfl⟩
        · exact ⟨v, hv, le_of_lt hlt⟩
    · rintro ⟨hmem, ⟨v', hv', hfloor⟩, w', hw', hceiling⟩
      have hvx : v.floor ≤ x := le_trans (le_of_lowest? hlow (List.mem_map_of_mem hv')) hfloor
      refine ⟨lt_of_lt_of_le hceiling (le_of_highest? hhigh (List.mem_map_of_mem hw')), ?_⟩
      exact (lt_or_eq_of_le hvx).elim (fun hlt => Or.inr ⟨hmem, hlt⟩) fun heq => Or.inl heq.symm

/-- Below an altitude that is covered there is a limit from which on nothing changes up to it. -/
theorem exists_limit_below (hv : v ∈ vs) (hc : v.covers h = true) :
    ∃ s ∈ limits vs, s ≤ h ∧ ∀ x ∈ limits vs, x ≤ h → x ≤ s := by
  have hfloor : v.floor ∈ (limits vs).filter (· ≤ h) :=
    List.mem_filter.mpr ⟨mem_limits.mpr ⟨v, hv, Or.inl rfl⟩, by simpa using (covers_iff.mp hc).1⟩
  obtain ⟨s, hs⟩ := exists_highest? hfloor
  obtain ⟨hmem, hsh⟩ := List.mem_filter.mp (mem_of_highest? hs)
  refine ⟨s, hmem, by simpa using hsh, fun x hx hxh => ?_⟩
  exact le_of_highest? hs (List.mem_filter.mpr ⟨hx, by simpa using hxh⟩)

theorem covers_eq_of_limit {s : Altitude} (hsh : s ≤ h) (hs : ∀ x ∈ limits vs, x ≤ h → x ≤ s)
    (hv : v ∈ vs) : v.covers s = v.covers h := by
  have hfloor := hs v.floor (mem_limits.mpr ⟨v, hv, Or.inl rfl⟩)
  have hceiling := hs v.ceiling (mem_limits.mpr ⟨v, hv, Or.inr rfl⟩)
  rw [Bool.eq_iff_iff, covers_iff, covers_iff]
  constructor
  · rintro ⟨hf, hc⟩
    exact ⟨le_trans hf hsh, lt_of_not_ge fun hch => not_le_of_gt hc (hceiling hch)⟩
  · rintro ⟨hf, hc⟩
    exact ⟨hfloor hf, lt_of_le_of_lt hsh hc⟩

theorem covers_eq_of_index (hi : v.index = w.index) : v.covers h = w.covers h := by
  simp only [AirspaceVector.covers, AirspaceVector.airspace, hi]

/-! ### Bands -/

variable [Scalar R] {e f : Altitude × AirspaceVector table}

theorem mem_resolve :
    e ∈ (resolve vs).toList ↔ e.1 ∈ limits vs ∧ chosenAt? vs e.1 = some e.2 := by
  obtain ⟨k, v⟩ := e
  simp only [resolve, HeightBands.ofAscending, List.mem_filterMap, Option.map_eq_some_iff, Prod.mk.injEq]
  constructor
  · rintro ⟨k, hk, v, hv, rfl, rfl⟩
    exact ⟨(mem_stops.mp hk).1, hv⟩
  · rintro ⟨hk, hv⟩
    obtain ⟨hmem, hc⟩ := mem_of_chosenAt? hv
    obtain ⟨hfloor, hceiling⟩ := covers_iff.mp hc
    exact ⟨k, mem_stops.mpr ⟨hk, ⟨v, hmem, hfloor⟩, v, hmem, hceiling⟩, v, hv, rfl, rfl⟩

/-- The band into which a covered altitude falls holds what is chosen at the altitude. -/
theorem last?_resolve (hv : chosenAt? vs h = some v) :
    ∃ k, (resolve vs).last? (· ≤ h) = some (k, v) := by
  obtain ⟨hmem, hc⟩ := mem_of_chosenAt? hv
  obtain ⟨s, hs, hsh, hmax⟩ := exists_limit_below hmem hc
  have hvs : chosenAt? vs s = some v := by
    rw [← hv]
    exact chosenAt?_congr fun v hv => covers_eq_of_limit hsh hmax hv
  refine ⟨s, HeightBands.last?_le_eq_some_iff.mpr ⟨mem_resolve.mpr ⟨hs, hvs⟩, hsh, fun e he heh => ?_⟩⟩
  exact hmax e.1 (mem_resolve.mp he).1 heh

theorem inside_eq_of_index (he : e ∈ (resolve vs).toList) (hf : f ∈ (resolve vs).toList)
    (hi : e.2.index = f.2.index) : e.2.inside = f.2.inside := by
  obtain ⟨-, hce⟩ := mem_resolve.mp he
  obtain ⟨-, hcf⟩ := mem_resolve.mp hf
  obtain ⟨hemem, hecov⟩ := mem_of_chosenAt? hce
  obtain ⟨hfmem, hfcov⟩ := mem_of_chosenAt? hcf
  rw [Bool.eq_iff_iff]
  exact ⟨inside_of_chosenAt? hcf hemem ((covers_eq_of_index hi).trans hfcov),
    inside_of_chosenAt? hce hfmem ((covers_eq_of_index hi).symm.trans hecov)⟩

/-- The bands of one airspace hold one vector. -/
theorem eq_of_index [Scalar.Ordered R] (hd : Defined vs) (he : e ∈ (resolve vs).toList)
    (hf : f ∈ (resolve vs).toList) (hi : e.2.index = f.2.index) : e.2 = f.2 := by
  obtain ⟨-, hce⟩ := mem_resolve.mp he
  obtain ⟨-, hcf⟩ := mem_resolve.mp hf
  exact eq_of_chosenAt? hd hce hcf ((covers_eq_of_index hi).trans (mem_of_chosenAt? hcf).2)
    ((covers_eq_of_index hi).symm.trans (mem_of_chosenAt? hce).2)

end AirspaceRaster.Sweep
