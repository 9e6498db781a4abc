import AirspaceRaster.Proofs.Band.Lookup
import AirspaceRaster.Band.Compaction

/-! What thinning keeps. No kept element is related to the one kept before it, and to every element
    that is dropped the one kept last before it is related. For bands the latter is the nearest kept
    band below. -/

namespace AirspaceRaster

/-! ### Lists -/

section Lists
variable {α : Type} {related : α → α → Bool} {l l₁ l₂ : List α} {a e : α}

theorem isChain_cons_thinAfter (related : α → α → Bool) (a : α) (l : List α) :
    (a :: thinAfter related a l).IsChain fun e f => related e f = false := by
  induction l generalizing a with
  | nil => exact List.IsChain.singleton a
  | cons b l ih =>
    rw [thinAfter]
    split
    · exact ih a
    · rename_i hab
      exact List.isChain_cons_cons.mpr ⟨Bool.eq_false_iff.mpr hab, ih b⟩

theorem isChain_thin (related : α → α → Bool) (l : List α) :
    (thin related l).IsChain fun e f => related e f = false := by
  cases l with
  | nil => exact List.IsChain.nil
  | cons a l => exact isChain_cons_thinAfter related a l

theorem thinAfter_split (a : α) : e ∈ thinAfter related a (l₁ ++ e :: l₂) ∨
    ∃ k₁ f k₂, a :: thinAfter related a (l₁ ++ e :: l₂) = k₁ ++ f :: k₂ ∧
      (k₁ ++ [f]).Sublist (a :: l₁) ∧ k₂.Sublist l₂ ∧ related f e = true := by
  induction l₁ generalizing a with
  | nil =>
    rw [List.nil_append, thinAfter]
    split
    · rename_i hae
      exact Or.inr ⟨[], a, _, rfl, List.Sublist.refl _, thinAfter_sublist related a l₂, hae⟩
    · exact Or.inl List.mem_cons_self
  | cons b l₁ ih =>
    rw [List.cons_append, thinAfter]
    split
    · refine (ih a).imp_right ?_
      rintro ⟨k₁, f, k₂, heq, hsub, hrest, hfe⟩
      exact ⟨k₁, f, k₂, heq, hsub.trans ((List.sublist_cons_self b l₁).cons_cons a), hrest, hfe⟩
    · refine (ih b).imp (List.mem_cons_of_mem b) ?_
      rintro ⟨k₁, f, k₂, heq, hsub, hrest, hfe⟩
      exact ⟨a :: k₁, f, k₂, by rw [heq]; rfl, hsub.cons_cons a, hrest, hfe⟩

/-- An element that is dropped is related to the one kept last before it. -/
theorem thin_split (hl : l = l₁ ++ e :: l₂) : e ∈ thin related l ∨
    ∃ k₁ f k₂, thin related l = k₁ ++ f :: k₂ ∧ (k₁ ++ [f]).Sublist l₁ ∧ k₂.Sublist l₂ ∧
      related f e = true := by
  subst hl
  cases l₁ with
  | nil => exact Or.inl List.mem_cons_self
  | cons a l₁ => exact (thinAfter_split a).imp_left (List.mem_cons_of_mem a)

end Lists

/-! ### Bands -/

namespace HeightBands
variable {R : Type} {table : AirspaceTable R} {b c : HeightBands table}
  {related : Altitude × AirspaceVector table → Altitude × AirspaceVector table → Bool}
  {e f : Altitude × AirspaceVector table}

theorem mem_or_below_of_thin (hc : c.toList = thin related b.toList) (he : e ∈ b.toList) :
    e ∈ c.toList ∨ ∃ f, c.below? e.1 = some f ∧ related f e = true := by
  obtain ⟨l₁, l₂, hl⟩ := List.append_of_mem he
  have hasc := b.ascending
  rw [hl, List.pairwise_append] at hasc
  obtain ⟨-, htail, hcross⟩ := hasc
  rw [hc]
  refine (thin_split hl).imp_right ?_
  rintro ⟨k₁, f, k₂, hk, hsub, hrest, hfe⟩
  have hkc : c.toList = k₁ ++ f :: k₂ := hc.trans hk
  have hasc' := c.ascending
  rw [hkc, List.pairwise_append] at hasc'
  have hf : f ∈ l₁ := hsub.subset (List.mem_append_right _ List.mem_cons_self)
  refine ⟨f, below?_eq_some_iff.mpr ⟨?_, hcross f hf e List.mem_cons_self, fun g hg hge => ?_⟩, hfe⟩
  · rw [hkc]
    exact List.mem_append_right _ List.mem_cons_self
  · rw [hkc] at hg
    rcases List.mem_append.mp hg with hg | hg
    · exact le_of_lt (hasc'.2.2 g hg f List.mem_cons_self)
    · rcases List.mem_cons.mp hg with rfl | hg
      · exact le_rfl
      -- What is kept behind `f` starts above `e`.
      · exact absurd hge (lt_asymm ((List.pairwise_cons.mp htail).1 g (hrest.subset hg)))

theorem toList_dropRepeated : b.dropRepeated.toList = thin (fun e f => e.2.sameAirspace f.2) b.toList :=
  rfl

theorem dropRepeated_sublist : b.dropRepeated.toList.Sublist b.toList :=
  thin_sublist ..

theorem dropRepeated_subset : b.dropRepeated.toList ⊆ b.toList :=
  dropRepeated_sublist.subset

/-- A band is kept or the nearest kept band below it has the same airspace. -/
theorem mem_or_below_dropRepeated (he : e ∈ b.toList) : e ∈ b.dropRepeated.toList ∨
    ∃ f, b.dropRepeated.below? e.1 = some f ∧ f.2.index = e.2.index := by
  refine (mem_or_below_of_thin toList_dropRepeated he).imp_right ?_
  rintro ⟨f, hf, hfe⟩
  exact ⟨f, hf, AirspaceVector.sameAirspace_iff.mp hfe⟩

/-- An altitude stays in a band of its airspace when repetitions are dropped. -/
theorem last?_dropRepeated {h : Altitude} (he : b.last? (· ≤ h) = some e) :
    ∃ f, b.dropRepeated.last? (· ≤ h) = some f ∧ f.2.index = e.2.index := by
  obtain ⟨hmem, heh, hmax⟩ := last?_le_eq_some_iff.mp he
  by_cases hkept : e ∈ b.dropRepeated.toList
  · exact ⟨e, last?_of_subset dropRepeated_subset he hkept, rfl⟩
  obtain ⟨f, hf, hfe⟩ := (mem_or_below_dropRepeated hmem).resolve_left hkept
  obtain ⟨hfmem, hlt, hfmax⟩ := below?_eq_some_iff.mp hf
  refine ⟨f, last?_le_eq_some_iff.mpr ⟨hfmem, le_trans (le_of_lt hlt) heh, fun g hg hgh => ?_⟩, hfe⟩
  refine hfmax g hg (lt_of_le_of_ne (hmax g (dropRepeated_subset hg) hgh) fun hge => hkept ?_)
  exact eq_of_key_eq (dropRepeated_subset hg) hmem hge ▸ hg

variable [Scalar R] {config : LevelConfig R}

/-- Whether a band looks like another one in a record. -/
def alike (config : LevelConfig R) (e f : Altitude × AirspaceVector table) : Bool :=
  (LevelDescriptor.encode config e.2).looksLike config.bearingTolerance (LevelDescriptor.encode config f.2)

theorem toList_dropAlike : (b.dropAlike config).toList = thin (alike config) b.toList :=
  rfl

theorem dropAlike_sublist : (b.dropAlike config).toList.Sublist b.toList :=
  thin_sublist ..

theorem dropAlike_subset : (b.dropAlike config).toList ⊆ b.toList :=
  dropAlike_sublist.subset

/-- A band is kept or the nearest kept band below it looks like it. -/
theorem mem_or_below_dropAlike (config : LevelConfig R) (he : e ∈ b.toList) :
    e ∈ (b.dropAlike config).toList ∨ ∃ f, (b.dropAlike config).below? e.1 = some f ∧ alike config f e = true :=
  mem_or_below_of_thin toList_dropAlike he

end HeightBands

end AirspaceRaster
