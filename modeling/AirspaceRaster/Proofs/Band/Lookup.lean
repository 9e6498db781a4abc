import Mathlib.Data.List.Chain
import Mathlib.Data.List.Sort
import AirspaceRaster.Proofs.Altitude
import AirspaceRaster.Band.HeightBands

/-! Reading bands by altitude. An altitude lies in the highest band that starts at or below it, and the
    bands hold a vector for the altitude if the airspace of that band reaches up to it. -/

namespace AirspaceRaster.HeightBands
variable {R : Type} {table : AirspaceTable R} {b c : HeightBands table} {p : Altitude → Bool} {h : Altitude}
  {e f : Altitude × AirspaceVector table}

/-- The highest band that starts at an altitude with a property. -/
def last? (b : HeightBands table) (p : Altitude → Bool) : Option (Altitude × AirspaceVector table) :=
  (b.toList.filter fun e => p e.1).getLast?

/-- The nearest band that starts below an altitude. -/
def below? (b : HeightBands table) (h : Altitude) : Option (Altitude × AirspaceVector table) :=
  b.last? (· < h)

/-- The vector that the bands hold for an altitude. -/
def lookup? (b : HeightBands table) (h : Altitude) : Option (AirspaceVector table) :=
  ((b.last? (· ≤ h)).map Prod.snd).filter (·.covers h)

theorem eq_of_key_eq (he : e ∈ b.toList) (hf : f ∈ b.toList) (hk : e.1 = f.1) : e = f := by
  have hnodup : (b.toList.map Prod.fst).Nodup :=
    List.pairwise_map.mpr (b.ascending.imp fun hlt => ne_of_lt hlt)
  exact List.inj_on_of_nodup_map hnodup he hf hk

theorem eq_of_mem_iff (h : ∀ e, e ∈ b.toList ↔ e ∈ c.toList) : b = c := by
  have : Std.Irrefl fun e f : Altitude × AirspaceVector table => e.1 < f.1 := ⟨fun e => lt_irrefl e.1⟩
  have : Std.Antisymm fun e f : Altitude × AirspaceVector table => e.1 < f.1 :=
    ⟨fun _ _ hef hfe => absurd hfe (lt_asymm hef)⟩
  exact ext_toList (b.ascending.eq_of_mem_iff c.ascending h)

theorem last?_eq_none_iff : b.last? p = none ↔ ∀ e ∈ b.toList, p e.1 = false := by
  rw [last?, List.getLast?_eq_none_iff, List.filter_eq_nil_iff]
  simp only [Bool.not_eq_true]

theorem le_of_last? (hl : b.last? p = some e) (hf : f ∈ b.toList) (hp : p f.1 = true) : f.1 ≤ e.1 := by
  obtain ⟨l, hl⟩ := List.getLast?_eq_some_iff.mp hl
  have hpair := b.ascending.sublist (List.filter_sublist (p := fun e => p e.1))
  have hmem : f ∈ b.toList.filter fun e => p e.1 := List.mem_filter.mpr ⟨hf, hp⟩
  rw [hl] at hpair hmem
  rcases List.mem_append.mp hmem with hmem | hmem
  · exact le_of_lt ((List.pairwise_append.mp hpair).2.2 f hmem e List.mem_cons_self)
  · rw [List.mem_singleton.mp hmem]

theorem last?_eq_some_iff : b.last? p = some e ↔
    e ∈ b.toList ∧ p e.1 = true ∧ ∀ f ∈ b.toList, p f.1 = true → f.1 ≤ e.1 := by
  constructor
  · intro hl
    obtain ⟨he, hp⟩ := List.mem_filter.mp (List.mem_of_getLast? hl)
    exact ⟨he, hp, fun f hf => le_of_last? hl hf⟩
  · rintro ⟨he, hp, hmax⟩
    cases hl : b.last? p with
    | none => simp [last?_eq_none_iff.mp hl e he] at hp
    | some g =>
      obtain ⟨hg, hpg⟩ := List.mem_filter.mp (List.mem_of_getLast? hl)
      rw [eq_of_key_eq hg he (le_antisymm (hmax g hg hpg) (le_of_last? hl he hp))]

/-- The highest band of some bands stays the highest one when others are taken away. -/
theorem last?_of_subset (hs : c.toList ⊆ b.toList) (hl : b.last? p = some e) (he : e ∈ c.toList) :
    c.last? p = some e := by
  obtain ⟨-, hp, hmax⟩ := last?_eq_some_iff.mp hl
  exact last?_eq_some_iff.mpr ⟨he, hp, fun f hf => hmax f (hs hf)⟩

theorem below?_eq_some_iff : b.below? h = some e ↔
    e ∈ b.toList ∧ e.1 < h ∧ ∀ f ∈ b.toList, f.1 < h → f.1 ≤ e.1 := by
  simp only [below?, last?_eq_some_iff, decide_eq_true_eq]

theorem exists_below? (he : e ∈ b.toList) (heh : e.1 < h) : ∃ f, b.below? h = some f := by
  rw [← Option.ne_none_iff_exists', below?, ne_eq, last?_eq_none_iff]
  intro hnone
  exact absurd heh (of_decide_eq_false (hnone e he))

theorem rel_of_below? {rel : Altitude × AirspaceVector table → Altitude × AirspaceVector table → Prop}
    (hb : b.toList.IsChain rel) (he : e ∈ b.toList) (hf : b.below? e.1 = some f) : rel f e := by
  obtain ⟨hfmem, hfe, hmax⟩ := below?_eq_some_iff.mp hf
  obtain ⟨l₁, l₂, hl⟩ := List.append_of_mem hfmem
  have hasc := b.ascending
  rw [hl, List.pairwise_append, List.pairwise_cons] at hasc
  obtain ⟨-, ⟨hhead, htail⟩, hcross⟩ := hasc
  have he₂ : e ∈ l₂ := by
    rw [hl] at he
    rcases List.mem_append.mp he with he | he
    · exact absurd (hcross e he f List.mem_cons_self) (lt_asymm hfe)
    · exact (List.mem_cons.mp he).resolve_left fun hef => lt_irrefl f.1 (hef ▸ hfe)
  cases l₂ with
  | nil => cases he₂
  | cons g l₂ =>
    have hfg : rel f g := List.isChain_iff_forall_rel_of_append_cons_cons.mp hb hl
    rcases List.mem_cons.mp he₂ with rfl | he₂
    · exact hfg
    · -- Otherwise `g` would be a band between the two.
      have hge : g.1 < e.1 := (List.pairwise_cons.mp htail).1 e he₂
      have hgf : g.1 ≤ f.1 := hmax g (hl ▸ by simp) hge
      exact absurd (hhead g List.mem_cons_self) (not_lt_of_ge hgf)

theorem last?_le_eq_some_iff : b.last? (· ≤ h) = some e ↔
    e ∈ b.toList ∧ e.1 ≤ h ∧ ∀ f ∈ b.toList, f.1 ≤ h → f.1 ≤ e.1 := by
  simp only [last?_eq_some_iff, decide_eq_true_eq]

theorem lookup?_eq_some_iff {v : AirspaceVector table} :
    b.lookup? h = some v ↔ ∃ k, b.last? (· ≤ h) = some (k, v) ∧ v.covers h = true := by
  simp [lookup?, Option.filter_eq_some_iff]

end AirspaceRaster.HeightBands
