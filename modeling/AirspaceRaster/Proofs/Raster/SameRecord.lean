import AirspaceRaster.Number.Binary64
import AirspaceRaster.Proofs.Band.Rivals
import AirspaceRaster.Proofs.Band.Runs
import AirspaceRaster.Proofs.Number.Place
import AirspaceRaster.Raster.PointRecord

/-! Vectors that give the same record. The record of a point depends on what is chosen at each altitude and on
    nothing else: vectors that are never chosen make no difference to it, and neither does the order of the
    vectors, except between two that tie. -/

namespace AirspaceRaster.PointRecord
open AirspaceVector HeightBands Sweep

variable {R : Type} [Scalar R] {table : AirspaceTable R} {vs ws : List (AirspaceVector table)}
  {config : LevelConfig R} {point : Point R} {u : AirspaceVector table}

/-! ### What is chosen -/

theorem encode_congr (h : (resolve vs).dropRepeated = (resolve ws).dropRepeated) :
    encode config point vs = encode config point ws := by
  simp only [encode, levels, compact, merged, h]

theorem chosenAt?_ne_of_ceiling_le (hu : u.ceiling ≤ u.floor) (h : Altitude) : chosenAt? vs h ≠ some u := fun hc => by
  obtain ⟨hfloor, hceiling⟩ := covers_iff.mp (mem_of_chosenAt? hc).2
  exact not_le_of_gt (lt_of_le_of_lt hfloor hceiling) hu

variable [Scalar.Ordered R]

/-- Vectors from which the same is chosen at every altitude have the same bands without repetitions and the same
    record. So a vector makes no difference if its band is empty or it is chosen nowhere, unless by way of an
    equal one that comes before it. -/
theorem encode_eq_of_chosenAt? (config : LevelConfig R) (point : Point R) (hd : Defined vs) :
    (∀ ws, Defined ws → (∀ h, chosenAt? vs h = chosenAt? ws h) →
      (resolve vs).dropRepeated = (resolve ws).dropRepeated ∧ encode config point vs = encode config point ws) ∧
    ∀ l₁ u l₂, vs = l₁ ++ u :: l₂ → (u.ceiling ≤ u.floor ∨ ∀ h, chosenAt? vs h = some u → u ∈ l₁) →
      (resolve vs).dropRepeated = (resolve (l₁ ++ l₂)).dropRepeated ∧
        encode config point vs = encode config point (l₁ ++ l₂) := by
  have hsame : ∀ ws, Defined ws → (∀ h, chosenAt? vs h = chosenAt? ws h) →
      (resolve vs).dropRepeated = (resolve ws).dropRepeated ∧ encode config point vs = encode config point ws := by
    intro ws hws h
    have hruns := dropRepeated_resolve_congr hd hws h
    exact ⟨hruns, encode_congr hruns⟩
  refine ⟨hsame, ?_⟩
  rintro l₁ u l₂ rfl hu
  have hnever : ∀ h, chosenAt? (l₁ ++ u :: l₂) h = some u → u ∈ l₁ := by
    rcases hu with hempty | hu
    · exact fun h hc => absurd hc (chosenAt?_ne_of_ceiling_le hempty h)
    · exact hu
  have hsub : (l₁ ++ l₂).Sublist (l₁ ++ u :: l₂) := (List.sublist_cons_self u l₂).append_left l₁
  exact hsame (l₁ ++ l₂) (fun v hv => hd v (hsub.subset hv)) fun h => (chosenAt?_append_cons hd (hnever h)).symm

/-- An airspace around the point from 0 to 4000 feet and a nearer one beside it from 1000 to 2000 feet. -/
def aroundAndBeside : List (AirspaceVector (.ofBands [(0, 4000), (1000, 2000)] : AirspaceTable Float)) :=
  [.measured ⟨0, by decide⟩ 500 90 true, .measured ⟨1, by decide⟩ 100 180 false]

theorem encode_eq_of_chosenAt?_aroundAndBeside :
    (resolve aroundAndBeside).keys = [⟨0, .sea⟩, ⟨1000, .sea⟩, ⟨2000, .sea⟩] ∧
    (resolve (aroundAndBeside.take 1)).keys = [⟨0, .sea⟩] ∧
    (resolve aroundAndBeside).dropRepeated = (resolve (aroundAndBeside.take 1)).dropRepeated ∧
    encode .standard ⟨48.7, 9.15⟩ aroundAndBeside = encode .standard ⟨48.7, 9.15⟩ (aroundAndBeside.take 1) := by
  have hd : Defined aroundAndBeside := by decide
  refine ⟨by decide +kernel, by decide +kernel, (encode_eq_of_chosenAt? .standard ⟨48.7, 9.15⟩ hd).2
    (aroundAndBeside.take 1) _ [] rfl (Or.inr fun h hc => ?_)⟩
  -- Wherever the second airspace is, so is the first one, which has the point inside.
  obtain ⟨hfloor, hceiling⟩ := covers_iff.mp (mem_of_chosenAt? hc).2
  have hfirst : (AirspaceVector.measured ⟨0, by decide⟩ 500 90 true :
      AirspaceVector (.ofBands [(0, 4000), (1000, 2000)] : AirspaceTable Float)).covers h = true :=
    covers_iff.mpr ⟨le_trans (by decide) hfloor, lt_of_lt_of_le hceiling (by decide)⟩
  cases inside_of_chosenAt? hc List.mem_cons_self hfirst rfl

/-! ### Order -/

theorem resolve_of_keepsTies (hd : Defined vs) (hk : KeepsTies vs ws) : resolve ws = resolve vs :=
  eq_of_mem_iff fun e => by
    have hlimits : e.1 ∈ limits ws ↔ e.1 ∈ limits vs := by
      simp only [mem_limits, hk.perm.mem_iff]
    rw [mem_resolve, mem_resolve, hlimits, chosenAt?_of_keepsTies hd hk]

/-- Vectors in another order in which no two that tie change places have the same bands and the same record, and
    without ties so have vectors in any order. -/
theorem encode_of_keepsTies (config : LevelConfig R) (point : Point R) (hd : Defined vs) :
    (∀ ws, KeepsTies vs ws → resolve ws = resolve vs ∧ encode config point ws = encode config point vs) ∧
    ((vs.Pairwise fun v w => ¬Tied v w) → ∀ ws, ws.Perm vs →
      resolve ws = resolve vs ∧ encode config point ws = encode config point vs) := by
  have hsame : ∀ ws, KeepsTies vs ws →
      resolve ws = resolve vs ∧ encode config point ws = encode config point vs := by
    intro ws hk
    have hresolve := resolve_of_keepsTies hd hk
    exact ⟨hresolve, by rw [encode, levels, hresolve, encode, levels]⟩
  exact ⟨hsame, fun hne ws hperm => hsame ws (keepsTies_of_perm hperm hne)⟩

/-- Three airspaces at one distance, of which the first two overlap, in the order of some places. -/
def tiesInOrder (order : List (Fin 3)) :
    List (AirspaceVector (.ofBands [(0, 1000), (500, 2000), (3000, 4000)] : AirspaceTable Float)) :=
  order.map fun i => .measured i 100 90 false

theorem encode_of_keepsTies_tiesInOrder :
    resolve (tiesInOrder [2, 0, 1]) = resolve (tiesInOrder [0, 1, 2]) ∧
    encode .standard ⟨48.7, 9.15⟩ (tiesInOrder [2, 0, 1]) = encode .standard ⟨48.7, 9.15⟩ (tiesInOrder [0, 1, 2]) ∧
    (resolve (tiesInOrder [0, 1, 2])).vectors.map (·.index.val) = [0, 0, 1, 2] ∧
    (resolve (tiesInOrder [1, 0, 2])).vectors.map (·.index.val) = [0, 1, 1, 2] := by
  have hd : Defined (tiesInOrder [0, 1, 2]) := by decide
  have hk : KeepsTies (tiesInOrder [0, 1, 2]) (tiesInOrder [2, 0, 1]) :=
    ⟨[⟨2, by decide⟩, ⟨0, by decide⟩, ⟨1, by decide⟩], by decide, rfl, by decide +kernel⟩
  obtain ⟨hresolve, hencode⟩ := (encode_of_keepsTies .standard ⟨48.7, 9.15⟩ hd).1 _ hk
  exact ⟨hresolve, hencode, by decide +kernel, by decide +kernel⟩

end AirspaceRaster.PointRecord
