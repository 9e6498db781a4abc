import AirspaceRaster.Proofs.Band.InsideLimits

/-! Runs of one airspace. Without repetitions a band starts wherever a maximal run of altitudes begins at which
    one airspace is chosen, and nowhere else. So these bands depend on what is chosen at each altitude only,
    and not on the limits at which the sweep stops. -/

namespace AirspaceRaster.Sweep
open AirspaceVector HeightBands

variable {R : Type} [Scalar R] {table : AirspaceTable R} {vs ws : List (AirspaceVector table)}
  {e : Altitude × AirspaceVector table} {h : Altitude}

/-- A vector is chosen at an altitude, and however little below its airspace is not chosen all the way up. -/
def StartsRun (vs : List (AirspaceVector table)) (e : Altitude × AirspaceVector table) : Prop :=
  chosenAt? vs e.1 = some e.2 ∧
    ∀ h < e.1, ∃ x, h ≤ x ∧ x < e.1 ∧ ∀ v, chosenAt? vs x = some v → v.index ≠ e.2.index

theorem StartsRun.mem_limits (hstart : StartsRun vs e) : e.1 ∈ limits vs := by
  obtain ⟨hce, hbelow⟩ := hstart
  obtain ⟨hmem, hcov⟩ := mem_of_chosenAt? hce
  obtain ⟨s, hs, hse, hmax⟩ := exists_limit_below hmem hcov
  rcases eq_or_lt_of_le hse with rfl | hlt
  · exact hs
  exfalso
  obtain ⟨x, hsx, hxe, hne⟩ := hbelow s hlt
  have hsame : ∀ y, s ≤ y → y ≤ e.1 → chosenAt? vs s = chosenAt? vs y := fun y hsy hye =>
    chosenAt?_congr fun v hv => covers_eq_of_limit hsy (fun z hz hzy => hmax z hz (le_trans hzy hye)) hv
  have hcx : chosenAt? vs x = some e.2 := by
    rw [← hsame x hsx (le_of_lt hxe), hsame e.1 hse le_rfl, hce]
  exact hne e.2 hcx rfl

theorem mem_dropRepeated_of_startsRun (hstart : StartsRun vs e) : e ∈ (resolve vs).dropRepeated.toList := by
  have hmem : e ∈ (resolve vs).toList := mem_resolve.mpr ⟨hstart.mem_limits, hstart.1⟩
  obtain ⟨hce, hbelow⟩ := hstart
  refine (mem_or_below_dropRepeated hmem).resolve_right ?_
  rintro ⟨f, hf, hi⟩
  -- Between the band below and this one the airspace covers everything, so something else is chosen there, and
  -- that would have a band of its own in between.
  obtain ⟨hfmem, hfe, hfmax⟩ := below?_eq_some_iff.mp hf
  obtain ⟨x, hfx, hxe, hne⟩ := hbelow f.1 hfe
  obtain ⟨hfvs, hfcov⟩ := mem_of_chosenAt? (mem_resolve.mp (dropRepeated_subset hfmem)).2
  have hecov : f.2.covers e.1 = true := (covers_eq_of_index hi).trans (mem_of_chosenAt? hce).2
  have hxcov : f.2.covers x = true := covers_iff.mpr
    ⟨le_trans (covers_iff.mp hfcov).1 hfx, lt_trans hxe (covers_iff.mp hecov).2⟩
  obtain ⟨w, hw⟩ := exists_chosenAt? hfvs hxcov
  obtain ⟨k, hk⟩ := last?_resolve hw
  obtain ⟨g, hg, hgw⟩ := last?_dropRepeated hk
  obtain ⟨hgmem, hgx, hgmax⟩ := last?_le_eq_some_iff.mp hg
  have hgf : g = f := eq_of_key_eq hgmem hfmem
    (le_antisymm (hfmax g hgmem (lt_of_le_of_lt hgx hxe)) (hgmax f hfmem hfx))
  subst hgf
  exact hne w hw (hgw.symm.trans hi)

variable [Scalar.Ordered R]

theorem startsRun_of_mem_dropRepeated (hd : Defined vs) (he : e ∈ (resolve vs).dropRepeated.toList) :
    StartsRun vs e := by
  obtain ⟨-, hce⟩ := mem_resolve.mp (dropRepeated_subset he)
  refine ⟨hce, fun h hlt => ?_⟩
  by_contra! hrun
  have hsame : ∀ x, h ≤ x → x < e.1 → chosenAt? vs x = some e.2 := fun x hhx hxe => by
    obtain ⟨v, hv, hi⟩ := hrun x hhx hxe
    have hve : v.covers e.1 = true := (covers_eq_of_index hi).trans (mem_of_chosenAt? hce).2
    have hex : e.2.covers x = true := (covers_eq_of_index hi.symm).trans (mem_of_chosenAt? hv).2
    rw [hv, eq_of_chosenAt? hd hv hce hve hex]
  obtain ⟨hmem, hcov⟩ := mem_of_chosenAt? (hsame h le_rfl hlt)
  have hfloor : e.2.floor < e.1 := lt_of_le_of_lt (covers_iff.mp hcov).1 hlt
  obtain ⟨s, hs, hse, hmax⟩ := exists_last_limit (mem_limits.mpr ⟨e.2, hmem, Or.inl rfl⟩) hfloor
  refine chosenAt?_ne_of_last_limit he hs hse hmax ?_
  rcases le_total h s with hhs | hsh
  · exact hsame s hhs hse
  · -- Nothing changes from the last limit up to `h`.
    rw [← hsame h le_rfl hlt]
    exact chosenAt?_congr fun v hv =>
      covers_eq_of_limit hsh (fun x hx hxh => hmax x hx (lt_of_le_of_lt hxh hlt)) hv

/-- Without repetitions the bands are the starts of runs. -/
theorem mem_dropRepeated_resolve_iff (hd : Defined vs) :
    e ∈ (resolve vs).dropRepeated.toList ↔ StartsRun vs e :=
  ⟨startsRun_of_mem_dropRepeated hd, mem_dropRepeated_of_startsRun⟩

/-- Where the same is chosen at every altitude, the bands without repetitions are the same. -/
theorem dropRepeated_resolve_congr (hvs : Defined vs) (hws : Defined ws)
    (h : ∀ x, chosenAt? vs x = chosenAt? ws x) : (resolve vs).dropRepeated = (resolve ws).dropRepeated :=
  eq_of_mem_iff fun e => by
    rw [mem_dropRepeated_resolve_iff hvs, mem_dropRepeated_resolve_iff hws]
    simp only [StartsRun, h]

end AirspaceRaster.Sweep
