import AirspaceRaster.Band.Sweep
import AirspaceRaster.Number.Binary64
import AirspaceRaster.Proofs.Band.Choice
import AirspaceRaster.Proofs.Band.Thinning
import AirspaceRaster.Proofs.Level.Byte

/-! Which bands stand for the others. Of bands in ascending order there is only one way to keep some so that the
    lowest one is kept, no band is related to the kept one below it, and every band that is dropped is related to
    the nearest kept one below it: whether a band is kept depends on the kept ones below it alone. Both passes that
    merge bands keep exactly these, the one for bands that look alike and the other one for bands of one airspace. -/

namespace AirspaceRaster.HeightBands

variable {R : Type} {table : AirspaceTable R} {b c d : HeightBands table} {e f : Altitude × AirspaceVector table}
  {related : AirspaceVector table → AirspaceVector table → Prop}

/-- Among the bands `b`, the bands `c` stand for all of them. The relation need not be transitive, so it matters
    that a band is compared with the one kept below it and not with the one just below it. -/
structure IsThinning (related : AirspaceVector table → AirspaceVector table → Prop) (b c : HeightBands table) :
    Prop where
  subset : c.toList ⊆ b.toList
  lowest : ∀ e, b.toList.head? = some e → e ∈ c.toList
  apart : c.toList.IsChain fun f e => ¬related f.2 e.2
  dropped : ∀ e ∈ b.toList, e ∉ c.toList → ∃ f, c.below? e.1 = some f ∧ related f.2 e.2

/-! ### Only one -/

theorem countP_below_lt (hf : f ∈ b.toList) (hlt : f.1 < e.1) :
    b.toList.countP (fun g => g.1 < f.1) < b.toList.countP fun g => g.1 < e.1 := by
  refine Sweep.countP_lt_countP hf (by simp) (by simpa using hlt) ?_
  intro g _ hg
  simp only [decide_eq_true_eq] at *
  exact lt_trans hg hlt

/-- A band that one thinning keeps and another one drops would be related to the band below it in both. -/
theorem IsThinning.mem_of_mem (hc : IsThinning related b c) (hd : IsThinning related b d) (he : e ∈ c.toList) :
    e ∈ d.toList := by
  -- The induction is on the number of bands below: those are kept by both or by neither.
  induction hn : b.toList.countP (fun g => g.1 < e.1) using Nat.strong_induction_on generalizing c d e with
  | _ n ih =>
    subst hn
    by_contra hne
    obtain ⟨f, hf, hrel⟩ := hd.dropped e (hc.subset he) hne
    obtain ⟨hfd, hfe, hmax⟩ := below?_eq_some_iff.mp hf
    have hfc : f ∈ c.toList := ih _ (countP_below_lt (hd.subset hfd) hfe) hd hc hfd rfl
    have hbelow : c.below? e.1 = some f := below?_eq_some_iff.mpr ⟨hfc, hfe, fun g hg hge =>
      hmax g (ih _ (countP_below_lt (hc.subset hg) hge) hc hd hg rfl) hge⟩
    exact rel_of_below? hc.apart he hbelow hrel

theorem IsThinning.unique (hc : IsThinning related b c) (hd : IsThinning related b d) : c = d :=
  eq_of_mem_iff fun _ => ⟨hc.mem_of_mem hd, hd.mem_of_mem hc⟩

theorem IsThinning.self (hc : IsThinning related b c) : IsThinning related c c where
  subset := fun _ he => he
  lowest := fun _ he => List.mem_of_head? he
  apart := hc.apart
  dropped := fun _ he hne => absurd he hne

/-! ### The passes -/

theorem isThinning_of_toList_eq {rel : Altitude × AirspaceVector table → Altitude × AirspaceVector table → Bool}
    (hrel : ∀ e f, rel e f = true ↔ related e.2 f.2) (hc : c.toList = thin rel b.toList) :
    IsThinning related b c where
  subset := by
    rw [hc]
    exact (thin_sublist rel b.toList).subset
  lowest := by
    intro e he
    obtain ⟨l, hl⟩ := List.head?_eq_some_iff.mp he
    rw [hc, hl]
    exact List.mem_cons_self
  apart := by
    rw [hc]
    refine (isChain_thin rel b.toList).imp ?_
    intro f e hfe hrelated
    rw [(hrel f e).mpr hrelated] at hfe
    cases hfe
  dropped := by
    intro e he hne
    obtain ⟨f, hf, hfe⟩ := (mem_or_below_of_thin hc he).resolve_left hne
    exact ⟨f, hf, (hrel f e).mp hfe⟩

theorem isThinning_dropRepeated (b : HeightBands table) :
    IsThinning (fun v w => v.index = w.index) b b.dropRepeated :=
  isThinning_of_toList_eq (fun _ _ => AirspaceVector.sameAirspace_iff) toList_dropRepeated

variable [Scalar R]

def LooksAlike (config : LevelConfig R) (v w : AirspaceVector table) : Prop :=
  (LevelDescriptor.encode config v).distance = (LevelDescriptor.encode config w).distance ∧
    (((LevelDescriptor.encode config v).bearing.toNat : Int) -
      (LevelDescriptor.encode config w).bearing.toNat).natAbs ≤ config.bearingTolerance.toNat

theorem isThinning_dropAlike (config : LevelConfig R) (b : HeightBands table) :
    IsThinning (LooksAlike config) b (b.dropAlike config) :=
  isThinning_of_toList_eq (fun _ _ => LevelDescriptor.looksLike_iff) toList_dropAlike

/-- Each of the two passes keeps the only bands that stand for all of them, and has nothing more to do when it is
    made again. -/
theorem isThinning_iff_merged (config : LevelConfig R) (b : HeightBands table) :
    (∀ c, IsThinning (LooksAlike config) b c ↔ c = b.dropAlike config) ∧
    (∀ c, IsThinning (fun v w => v.index = w.index) b c ↔ c = b.dropRepeated) ∧
    (b.dropAlike config).dropAlike config = b.dropAlike config ∧
    b.dropRepeated.dropRepeated = b.dropRepeated := by
  have halike := isThinning_dropAlike config b
  have hrepeated := isThinning_dropRepeated b
  refine ⟨fun c => ⟨fun hc => hc.unique halike, ?_⟩, fun c => ⟨fun hc => hc.unique hrepeated, ?_⟩, ?_, ?_⟩
  · rintro rfl
    exact halike
  · rintro rfl
    exact hrepeated
  · exact (isThinning_dropAlike config _).unique halike.self
  · exact (isThinning_dropRepeated _).unique hrepeated.self

/-- Bearings that drift by as much as the tolerance from one band to the next. -/
def drifting : HeightBands (.ofBands [(0, 1500), (1500, 3000), (3000, 4500)] : AirspaceTable Float) :=
  .ofList [(⟨0, .sea⟩, .measured ⟨0, by decide⟩ 640 90 false), (⟨1500, .sea⟩, .measured ⟨1, by decide⟩ 640 105 false),
    (⟨3000, .sea⟩, .measured ⟨2, by decide⟩ 640 120 false)]

example : (drifting.dropAlike .standard).keys = [⟨0, .sea⟩, ⟨3000, .sea⟩] := by decide +kernel

end AirspaceRaster.HeightBands
