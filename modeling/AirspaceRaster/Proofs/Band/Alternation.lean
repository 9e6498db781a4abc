import Mathlib.Data.List.Chain
import AirspaceRaster.Proofs.Band.Compaction
import AirspaceRaster.Proofs.Band.Sweep
import AirspaceRaster.Proofs.Level.Byte

/-! Neighbouring bands of different airspaces. Dropping repetitions leaves no two neighbours of one
    airspace, and neither of the other reductions brings such neighbours together: look-alikes include
    repetitions, and between two bands of one airspace there is always one of an airspace that is
    preferred to it, which therefore is not dropped first as the farthest one. -/

namespace AirspaceRaster.HeightBands
open AirspaceVector Sweep

variable {R : Type} {table : AirspaceTable R} {b c : HeightBands table} {e f : Altitude × AirspaceVector table}
  {v : AirspaceVector table} {vs : List (AirspaceVector table)}

/-- No two neighbouring bands have the same airspace. -/
def Alternating (b : HeightBands table) : Prop :=
  b.toList.IsChain fun e f => e.2.index ≠ f.2.index

/-- Between two bands of one airspace lies a band of another one. -/
theorem Alternating.exists_between (hb : b.Alternating) (he : e ∈ b.toList) (hf : f ∈ b.toList)
    (hlt : e.1 < f.1) (hi : e.2.index = f.2.index) :
    ∃ g ∈ b.toList, e.1 < g.1 ∧ g.1 < f.1 ∧ g.2.index ≠ e.2.index := by
  obtain ⟨g, hg⟩ := exists_below? he hlt
  obtain ⟨hgmem, hgf, hmax⟩ := below?_eq_some_iff.mp hg
  have hne : g.2.index ≠ e.2.index := by
    rw [hi]
    exact rel_of_below? hb hf hg
  refine ⟨g, hgmem, lt_of_le_of_ne (hmax e he hlt) ?_, hgf, hne⟩
  intro hkey
  rw [eq_of_key_eq he hgmem hkey] at hne
  exact hne rfl

theorem alternating_of_exists_between (h : ∀ e ∈ b.toList, ∀ f ∈ b.toList, e.1 < f.1 →
    e.2.index = f.2.index → ∃ g ∈ b.toList, e.1 < g.1 ∧ g.1 < f.1) : b.Alternating := by
  refine List.isChain_iff_forall_rel_of_append_cons_cons.mpr fun {e f l₁ l₂} hl hi => ?_
  have hasc := b.ascending
  rw [hl, List.pairwise_append] at hasc
  obtain ⟨-, htail, hcross⟩ := hasc
  obtain ⟨g, hg, heg, hgf⟩ := h e (hl ▸ by simp) f (hl ▸ by simp)
    ((List.pairwise_cons.mp htail).1 f List.mem_cons_self) hi
  rw [hl] at hg
  rcases List.mem_append.mp hg with hg | hg
  · exact lt_asymm heg (hcross g hg e List.mem_cons_self)
  rcases List.mem_cons.mp hg with rfl | hg
  · exact lt_irrefl _ heg
  rcases List.mem_cons.mp hg with rfl | hg
  · exact lt_irrefl _ hgf
  · exact lt_asymm hgf ((List.pairwise_cons.mp (List.pairwise_cons.mp htail).2).1 g hg)

theorem alternating_dropRepeated : b.dropRepeated.Alternating := by
  refine (isChain_thin (fun e f => e.2.sameAirspace f.2) b.toList).imp fun e f hne hi => ?_
  rw [sameAirspace_iff.mpr hi] at hne
  cases hne

/-- Of several bands some are left whatever airspace is dropped. -/
theorem Alternating.without_ne_nil (halt : c.Alternating) (hs : 2 ≤ c.size) (v : AirspaceVector table) :
    (c.without v).toList ≠ [] := by
  obtain ⟨e, f, l, hl⟩ : ∃ e f l, c.toList = e :: f :: l := by
    rcases h : c.toList with _ | ⟨e, _ | ⟨f, l⟩⟩
    · simp [size, h] at hs
    · simp [size, h] at hs
    · exact ⟨e, f, l, rfl⟩
  have hne : e.2.index ≠ f.2.index := by
    have := halt
    rw [Alternating, hl, List.isChain_cons_cons] at this
    exact this.1
  by_cases hev : e.2.index = v.index
  · exact List.ne_nil_of_mem (mem_without.mpr ⟨hl ▸ by simp, fun hfv => hne (hev.trans hfv.symm)⟩ : f ∈ _)
  · exact List.ne_nil_of_mem (mem_without.mpr ⟨hl ▸ by simp, hev⟩ : e ∈ _)

variable [Scalar R] {config : LevelConfig R}

theorem alike_of_eq (h : e.2 = f.2) : alike config e f = true := by
  rw [alike, h, LevelDescriptor.looksLike_iff]
  simp

/-! ### What is dropped -/

theorem defined_of_subset (hd : Defined vs) (hb : b.toList ⊆ (resolve vs).toList) : Defined b.vectors := by
  intro v hv
  obtain ⟨e, he, rfl⟩ := List.mem_map.mp hv
  exact hd e.2 (mem_of_chosenAt? (mem_resolve.mp (hb he)).2).1

section Ordered
variable [Scalar.Ordered R]

theorem isRanking_farthest (hd : Defined vs) :
    IsRanking (fun best v : AirspaceVector table => decide (v.distance ≤ best.distance)) vs where
  total x hx y hy := (isRanking_distance hd).total y hy x hx
  trans hxy hyz := by
    simp only [decide_eq_true_eq] at *
    exact Scalar.Ordered.le_trans hyz hxy

/-- No airspace without the point inside is farther away than the one that is dropped. -/
theorem distance_le_of_farthestOutside? (hd : Defined b.vectors) (hv : b.farthestOutside? = some v)
    (he : e ∈ b.toList) (hi : e.2.inside = false) : e.2.distance ≤ v.distance := by
  have hr := (isRanking_farthest hd).subset (List.filter_sublist (p := fun v => !v.inside)).subset
  have hmem : e.2 ∈ b.vectors.filter (!·.inside) :=
    List.mem_filter.mpr ⟨List.mem_map_of_mem he, by simp [hi]⟩
  simpa using stays_of_winner hr hv hmem

/-- Of several airspaces at the largest distance the one with the lowest band is dropped. -/
theorem exists_le_of_farthestOutside? (hd : Defined b.vectors) (hv : b.farthestOutside? = some v)
    (he : e ∈ b.toList) (hi : e.2.inside = false) (hdist : v.distance ≤ e.2.distance) :
    ∃ k, (k, v) ∈ b.toList ∧ k ≤ e.1 := by
  have hr := (isRanking_farthest hd).subset (List.filter_sublist (p := fun v => !v.inside)).subset
  have hfind := find?_of_winner hr hv
  rw [vectors, List.filter_map, List.find?_map, Option.map_eq_some_iff] at hfind
  obtain ⟨⟨k, w⟩, hfind, rfl⟩ := hfind
  obtain ⟨-, l₁, l₂, hl, hfail⟩ := List.find?_eq_some_iff_append.mp hfind
  have hmem : e ∈ b.toList.filter ((fun v => !v.inside) ∘ Prod.snd) :=
    List.mem_filter.mpr ⟨he, by simp [hi]⟩
  have hasc := b.ascending.sublist (List.filter_sublist (p := (fun v => !v.inside) ∘ Prod.snd))
  have hk : (k, w) ∈ b.toList := (List.mem_filter.mp (List.mem_of_find?_eq_some hfind)).1
  rw [hl] at hmem hasc
  refine ⟨k, hk, ?_⟩
  rcases List.mem_append.mp hmem with hmem | hmem
  · simpa [hdist] using hfail e hmem
  rcases List.mem_cons.mp hmem with rfl | hmem
  · exact le_rfl
  · exact le_of_lt ((List.pairwise_cons.mp (List.pairwise_append.mp hasc).2.1).1 e hmem)

/-! ### What is left -/

theorem alternating_merged (hd : Defined vs) : ((resolve vs).merged config).Alternating := by
  rcases merged_eq (resolve vs) config with h | h
  · rw [h]
    exact alternating_dropRepeated
  · rw [h]
    have hchain := isChain_thin (alike config) (resolve vs).dropRepeated.toList
    rw [← toList_dropAlike] at hchain
    refine hchain.imp_of_mem_imp fun e f he hf hne hi => ?_
    have heq : e.2 = f.2 :=
      eq_of_index hd (dropRepeated_subset (dropAlike_subset he)) (dropRepeated_subset (dropAlike_subset hf)) hi
    rw [alike_of_eq heq] at hne
    cases hne

/-- Dropping the farthest airspace brings no two bands of one airspace together. -/
theorem Alternating.without (hd : Defined vs) (hb : b.toList ⊆ (resolve vs).toList) (halt : b.Alternating)
    (hv : b.farthestOutside? = some v) : (b.without v).Alternating := by
  refine alternating_of_exists_between fun e hew f hfw hlt hi => ?_
  obtain ⟨he, hev⟩ := mem_without.mp hew
  obtain ⟨hf, -⟩ := mem_without.mp hfw
  obtain ⟨g, hg, heg, hgf, hne⟩ := halt.exists_between he hf hlt hi
  by_cases hgv : g.2.index = v.index
  swap
  · exact ⟨g, mem_without.mpr ⟨hg, hgv⟩, heg, hgf⟩
  -- The band between would be dropped. Its airspace is preferred to that of `e`, so the two tie, and
  -- then it has a band below `e`, where its airspace is not preferred.
  exfalso
  have hdb := defined_of_subset hd hb
  obtain ⟨⟨k, hk⟩, hout⟩ := mem_of_farthestOutside? hv
  obtain ⟨-, hce⟩ := mem_resolve.mp (hb he)
  obtain ⟨-, hcf⟩ := mem_resolve.mp (hb hf)
  obtain ⟨-, hcg⟩ := mem_resolve.mp (hb hg)
  obtain rfl : g.2 = v := eq_of_index hd (hb hg) (hb hk) hgv
  obtain ⟨hemem, hecov⟩ := mem_of_chosenAt? hce
  have hfcov : e.2.covers f.1 = true := (covers_eq_of_index hi).trans (mem_of_chosenAt? hcf).2
  have hegcov : e.2.covers g.1 = true := covers_iff.mpr
    ⟨le_trans (covers_iff.mp hecov).1 (le_of_lt heg), lt_trans hgf (covers_iff.mp hfcov).2⟩
  have heout : e.2.inside = false := by
    by_contra hin
    rw [inside_of_chosenAt? hcg hemem hegcov (by simpa using hin)] at hout
    cases hout
  have hdist := distance_le_of_chosenAt? hd hcg hemem hegcov (heout.trans hout.symm)
  obtain ⟨k₀, hk₀, hle⟩ := exists_le_of_farthestOutside? hdb hv he heout hdist
  obtain ⟨-, hck₀⟩ := mem_resolve.mp (hb hk₀)
  have hgecov : g.2.covers e.1 = true := covers_iff.mpr
    ⟨le_trans (covers_iff.mp (mem_of_chosenAt? hck₀).2).1 hle,
      lt_trans heg (covers_iff.mp (mem_of_chosenAt? hcg).2).2⟩
  exact hev (congrArg AirspaceVector.index (eq_of_chosenAt? hd hce hcg hegcov hgecov))

theorem alternating_shed (hd : Defined vs) {levels : Nat} (hb : b.toList ⊆ (resolve vs).toList)
    (halt : b.Alternating) : (b.shed levels).2.Alternating := by
  refine (shed_induction (P := fun c => c.toList ⊆ (resolve vs).toList ∧ c.Alternating) ⟨hb, halt⟩ ?_).1.2
  rintro c v ⟨hc, hcalt⟩ - hv
  exact ⟨fun e he => hc (mem_without.mp he).1, hcalt.without hd hc hv⟩

end Ordered

end AirspaceRaster.HeightBands
