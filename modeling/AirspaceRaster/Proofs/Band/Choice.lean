import AirspaceRaster.Band.Choice
import AirspaceRaster.Proofs.Number.Order

/-! What is chosen. Where challengers are compared by a total and transitive relation, the winner of a
    list is the first of its best elements. The vector that stands for an altitude is such a winner
    among the vectors that cover the altitude and agree with it on whether the point is inside; so of
    two vectors that both cover two altitudes, always the same one is preferred. -/

namespace AirspaceRaster

/-! ### Winners -/

section Winner
variable {α : Type} {stays : α → α → Bool} {l : List α} {a : α}

/-- A relation by which the elements of a list can be ranked. -/
structure IsRanking (stays : α → α → Bool) (l : List α) : Prop where
  total : ∀ x ∈ l, ∀ y ∈ l, stays x y = true ∨ stays y x = true
  trans : ∀ {x y z}, stays x y = true → stays y z = true → stays x z = true

theorem IsRanking.subset {l' : List α} (h : IsRanking stays l) (hs : l' ⊆ l) : IsRanking stays l' where
  total x hx y hy := h.total x (hs hx) y (hs hy)
  trans := h.trans

/-- The element that is left beats every element before it and stays against every one after it. -/
theorem exists_split_foldl (h : IsRanking stays (a :: l)) :
    ∃ l₁ r l₂, l.foldl (fun best b => if stays best b then best else b) a = r ∧ a :: l = l₁ ++ r :: l₂ ∧
      (∀ x ∈ l₁, stays x r = false) ∧ ∀ x ∈ r :: l₂, stays r x = true := by
  have refl : ∀ x ∈ a :: l, stays x x = true := fun x hx => (h.total x hx x hx).elim id id
  induction l generalizing a with
  | nil => exact ⟨[], a, [], rfl, rfl, by simp, by simpa using refl⟩
  | cons b l ih =>
    rw [List.foldl_cons]
    split
    · rename_i hab
      have hsub : a :: l ⊆ a :: b :: l := List.cons_subset_cons a (List.subset_cons_self b l)
      obtain ⟨l₁, r, l₂, hr, hl, hlow, hhigh⟩ := ih (h.subset hsub) fun x hx => refl x (hsub hx)
      cases l₁ with
      | nil =>
        obtain ⟨rfl, rfl⟩ := List.cons.inj hl
        refine ⟨[], a, b :: l, hr, rfl, by simp, ?_⟩
        rintro x (_ | ⟨_, _ | ⟨_, hx⟩⟩)
        · exact refl a List.mem_cons_self
        · exact hab
        · exact hhigh x (List.mem_cons_of_mem _ hx)
      | cons c l₁ =>
        obtain ⟨rfl, rfl⟩ := List.cons.inj hl
        refine ⟨a :: b :: l₁, r, l₂, hr, rfl, ?_, hhigh⟩
        have har : stays a r = false := hlow a List.mem_cons_self
        rintro x (_ | ⟨_, _ | ⟨_, hx⟩⟩)
        · exact har
        · exact Bool.eq_false_iff.mpr fun hbr => by simp [h.trans hab hbr] at har
        · exact hlow x (List.mem_cons_of_mem _ hx)
    · rename_i hab
      have hsub : b :: l ⊆ a :: b :: l := List.subset_cons_self a _
      obtain ⟨l₁, r, l₂, hr, hl, hlow, hhigh⟩ := ih (h.subset hsub) fun x hx => refl x (hsub hx)
      have hrb : stays r b = true := by
        have hmem : b ∈ l₁ ++ r :: l₂ := hl ▸ List.mem_cons_self
        rcases List.mem_append.mp hmem with hb | hb
        · have hrl : r ∈ b :: l := hl ▸ List.mem_append_right _ List.mem_cons_self
          refine (h.total r (hsub hrl) b (hsub List.mem_cons_self)).resolve_right ?_
          simp [hlow b hb]
        · exact hhigh b hb
      refine ⟨a :: l₁, r, l₂, hr, by rw [hl]; rfl, ?_, hhigh⟩
      rintro x (_ | ⟨_, hx⟩)
      · exact Bool.eq_false_iff.mpr fun har => hab (h.trans har hrb)
      · exact hlow x hx

theorem exists_split_of_winner (h : IsRanking stays l) (hw : winner stays l = some a) :
    ∃ l₁ l₂, l = l₁ ++ a :: l₂ ∧ (∀ x ∈ l₁, stays x a = false) ∧ ∀ x ∈ a :: l₂, stays a x = true := by
  cases l with
  | nil => cases hw
  | cons b l =>
    obtain ⟨l₁, r, l₂, hr, hl, hlow, hhigh⟩ := exists_split_foldl h
    obtain rfl : r = a := hr.symm.trans (Option.some.inj hw)
    exact ⟨l₁, l₂, hl, hlow, hhigh⟩

theorem stays_of_winner (h : IsRanking stays l) (hw : winner stays l = some a) {x : α} (hx : x ∈ l) :
    stays a x = true := by
  have ha := mem_of_winner hw
  obtain ⟨l₁, l₂, rfl, hlow, hhigh⟩ := exists_split_of_winner h hw
  rcases List.mem_append.mp hx with hx₁ | hx₂
  · refine (h.total a ha x hx).resolve_right ?_
    simp [hlow x hx₁]
  · exact hhigh x hx₂

/-- The winner is the first element that stays against it, that is the first of the best ones. -/
theorem find?_of_winner (h : IsRanking stays l) (hw : winner stays l = some a) :
    l.find? (fun x => stays x a) = some a := by
  have haa := stays_of_winner h hw (mem_of_winner hw)
  obtain ⟨l₁, l₂, hl, hlow, -⟩ := exists_split_of_winner h hw
  rw [List.find?_eq_some_iff_append]
  exact ⟨haa, l₁, l₂, hl, fun x hx => by simp [hlow x hx]⟩

theorem eq_of_find? {p q : α → Bool} {b : α} (ha : l.find? p = some a) (hb : l.find? q = some b)
    (hpb : p b = true) (hqa : q a = true) : a = b := by
  induction l with
  | nil => cases ha
  | cons x l ih =>
    rw [List.find?_cons] at ha hb
    split at ha <;> split at hb <;> simp_all

/-- The winner does not change with the part of a list that is looked at, as long as both winners
    belong to both parts. -/
theorem eq_of_winner_filter {p q : α → Bool} {b : α} (h : IsRanking stays l)
    (ha : winner stays (l.filter p) = some a) (hb : winner stays (l.filter q) = some b)
    (hqa : q a = true) (hpb : p b = true) : a = b := by
  have hp := h.subset (List.filter_sublist (p := p)).subset
  have hq := h.subset (List.filter_sublist (p := q)).subset
  obtain ⟨hal, -⟩ := List.mem_filter.mp (mem_of_winner ha)
  obtain ⟨hbl, -⟩ := List.mem_filter.mp (mem_of_winner hb)
  have hab : stays a b = true := stays_of_winner hp ha (List.mem_filter.mpr ⟨hbl, hpb⟩)
  have hba : stays b a = true := stays_of_winner hq hb (List.mem_filter.mpr ⟨hal, hqa⟩)
  have hfa := find?_of_winner hp ha
  have hfb := find?_of_winner hq hb
  rw [List.find?_filter] at hfa hfb
  exact eq_of_find? hfa hfb (by simp [hpb, hba]) (by simp [hqa, hab])

end Winner

/-! ### Vectors -/

/-- A table of airspaces of which only the floors and ceilings matter, in feet above the sea. -/
def AirspaceTable.ofBands {R : Type} (bands : List (Int × Int)) : AirspaceTable R :=
  (bands.map fun (floor, ceiling) => ⟨"", .restricted, ⟨floor, .sea⟩, ⟨ceiling, .sea⟩, ⟨[]⟩⟩).toArray

namespace AirspaceVector
variable {R : Type} {table : AirspaceTable R} {vs : List (AirspaceVector table)} {h h' : Altitude}
  {u v w : AirspaceVector table}

theorem mem_covering : v ∈ covering vs h ↔ v ∈ vs ∧ v.covers h = true :=
  List.mem_filter

variable [Scalar R]

/-- Vectors whose distances are all defined. -/
def Defined (vs : List (AirspaceVector table)) : Prop :=
  ∀ v ∈ vs, Scalar.isDefined v.distance = true

instance : Decidable (Defined vs) :=
  inferInstanceAs (Decidable (∀ v ∈ vs, _))

/-- What is chosen is the nearest of the covering vectors with the same flag as its own. -/
theorem nearest?_of_chosenAt? (hv : chosenAt? vs h = some v) :
    nearest? (vs.filter fun u => u.covers h && u.inside == v.inside) = some v := by
  rw [chosenAt?, Option.orElse_eq_orElse, Option.orElse_eq_or, Option.or_eq_some_iff] at hv
  rcases hv with hv | ⟨hnone, hv⟩
  · have hi : v.inside = true := (List.mem_filter.mp (mem_of_winner hv)).2
    rw [covering, List.filter_filter] at hv
    rw [← hv, hi]
    congr 2
    funext u
    cases u.inside <;> simp
  · have hnil := winner_eq_none.mp hnone
    have hout : ∀ u ∈ covering vs h, u.inside = false := fun u hu => by
      simpa using List.filter_eq_nil_iff.mp hnil u hu
    have hi := hout v (mem_of_winner hv)
    rw [← hv, covering, hi]
    congr 1
    apply List.filter_congr
    intro u hu
    cases hc : u.covers h with
    | false => rfl
    | true => simp [hout u (mem_covering.mpr ⟨hu, hc⟩)]

theorem mem_of_chosenAt? (hv : chosenAt? vs h = some v) : v ∈ vs ∧ v.covers h = true := by
  have := List.mem_filter.mp (mem_of_winner (nearest?_of_chosenAt? hv))
  simp only [Bool.and_eq_true] at this
  exact ⟨this.1, this.2.1⟩

theorem chosenAt?_eq_none_iff : chosenAt? vs h = none ↔ ∀ v ∈ vs, v.covers h = false := by
  rw [chosenAt?, Option.orElse_eq_orElse, Option.orElse_eq_or, Option.or_eq_none_iff, nearest?, nearest?,
    winner_eq_none, winner_eq_none, covering, List.filter_eq_nil_iff]
  constructor
  · rintro ⟨-, h⟩
    simpa using h
  · intro h
    refine ⟨fun v hv => ?_, by simpa using h⟩
    simp [h v (List.mem_filter.mp hv).1] at hv

theorem exists_chosenAt? (hu : u ∈ vs) (hc : u.covers h = true) : ∃ v, chosenAt? vs h = some v := by
  rw [← Option.isSome_iff_exists, ← Option.ne_none_iff_isSome, ne_eq, chosenAt?_eq_none_iff]
  exact fun hn => by simp [hn u hu] at hc

theorem inside_of_chosenAt? (hv : chosenAt? vs h = some v) (hu : u ∈ vs) (hc : u.covers h = true)
    (hi : u.inside = true) : v.inside = true := by
  rw [chosenAt?, Option.orElse_eq_orElse, Option.orElse_eq_or, Option.or_eq_some_iff] at hv
  rcases hv with hv | ⟨hnone, -⟩
  · exact (List.mem_filter.mp (mem_of_winner hv)).2
  · have hnil := List.filter_eq_nil_iff.mp (winner_eq_none.mp hnone) u (mem_covering.mpr ⟨hu, hc⟩)
    exact absurd hi hnil

theorem chosenAt?_congr (hc : ∀ v ∈ vs, v.covers h = v.covers h') : chosenAt? vs h = chosenAt? vs h' := by
  have : covering vs h = covering vs h' := List.filter_congr hc
  rw [chosenAt?, chosenAt?, this]

variable [Scalar.Ordered R]

theorem isRanking_distance (hd : Defined vs) :
    IsRanking (fun best v : AirspaceVector table => decide (best.distance ≤ v.distance)) vs where
  total x hx y hy := by simpa using Scalar.Ordered.le_total (hd x hx) (hd y hy)
  trans hxy hyz := by
    simp only [decide_eq_true_eq] at *
    exact Scalar.Ordered.le_trans hxy hyz

theorem distance_le_of_chosenAt? (hd : Defined vs) (hv : chosenAt? vs h = some v) (hu : u ∈ vs)
    (hc : u.covers h = true) (hi : u.inside = v.inside) : v.distance ≤ u.distance := by
  have hr := (isRanking_distance hd).subset
    (List.filter_sublist (p := fun u => u.covers h && u.inside == v.inside)).subset
  have hmem : u ∈ vs.filter fun u => u.covers h && u.inside == v.inside :=
    List.mem_filter.mpr ⟨hu, by simp [hc, hi]⟩
  simpa using stays_of_winner hr (nearest?_of_chosenAt? hv) hmem

/-- Of two vectors that cover two altitudes, not one is chosen at the first and the other one at the
    second. -/
theorem eq_of_chosenAt? (hd : Defined vs) (hv : chosenAt? vs h = some v) (hw : chosenAt? vs h' = some w)
    (hvc : v.covers h' = true) (hwc : w.covers h = true) : v = w := by
  have hi : v.inside = w.inside := by
    rw [Bool.eq_iff_iff]
    exact ⟨inside_of_chosenAt? hw (mem_of_chosenAt? hv).1 hvc,
      inside_of_chosenAt? hv (mem_of_chosenAt? hw).1 hwc⟩
  exact eq_of_winner_filter (isRanking_distance hd) (nearest?_of_chosenAt? hv) (nearest?_of_chosenAt? hw)
    (by simp [hvc, hi]) (by simp [hwc, hi])

end AirspaceVector

end AirspaceRaster
