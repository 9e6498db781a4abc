import AirspaceRaster.Proofs.Band.Alternation
import AirspaceRaster.Proofs.Number.Place
import AirspaceRaster.Proofs.Raster.Budget

/-! The order in which airspaces are shed. Those without the point inside are sorted once, the farthest first and
    of several at one distance the one with the lowest band; shedding takes away the shortest prefix of that order
    that leaves few enough bands. The order of what is left behind the first one is the rest of the order, so one
    step of the loop is one step along the sorted list. -/

namespace AirspaceRaster.HeightBands
open AirspaceVector Sweep

variable {R : Type} {table : AirspaceTable R} {b c : HeightBands table} {v w : AirspaceVector table}
  {vs : List (AirspaceVector table)} {e f g : Altitude × AirspaceVector table}
  {rest : List (Altitude × AirspaceVector table)}

/-! ### The airspaces in question -/

/-- The lowest bands of the airspaces that do not contain the point. -/
def lowestOutside (b : HeightBands table) : List (Altitude × AirspaceVector table) :=
  b.toList.filter fun e => !e.2.inside && b.toList.all fun f => !f.2.sameAirspace e.2 || decide (e.1 ≤ f.1)

def withoutAll (b : HeightBands table) (vs : List (AirspaceVector table)) : HeightBands table :=
  b.filter fun w => !vs.any w.sameAirspace

theorem mem_lowestOutside : e ∈ b.lowestOutside ↔
    e ∈ b.toList ∧ e.2.inside = false ∧ ∀ f ∈ b.toList, f.2.index = e.2.index → e.1 ≤ f.1 := by
  simp [lowestOutside, sameAirspace_iff, Decidable.imp_iff_not_or, ← Bool.not_eq_true]

theorem nodup_lowestOutside (b : HeightBands table) : b.lowestOutside.Nodup := by
  have hkeys : (b.toList.map Prod.fst).Nodup := List.pairwise_map.mpr (b.ascending.imp fun hlt => ne_of_lt hlt)
  exact (List.Nodup.of_map _ hkeys).filter _

theorem vectors_without_subset : (b.without v).vectors ⊆ b.vectors :=
  List.map_subset _ without_sublist.subset

theorem lowestOutside_without (b : HeightBands table) (v : AirspaceVector table) :
    (b.without v).lowestOutside = b.lowestOutside.filter fun e => !e.2.sameAirspace v := by
  have hlist : (b.without v).toList = b.toList.filter fun e => !e.2.sameAirspace v := rfl
  rw [lowestOutside, lowestOutside, hlist, List.filter_filter, List.filter_filter]
  refine List.filter_congr fun e he => ?_
  by_cases hev : e.2.index = v.index
  · simp [sameAirspace, hev]
  · -- All bands of the airspace are still there.
    rw [Bool.eq_iff_iff]
    simp only [sameAirspace, Bool.and_eq_true, List.all_eq_true, List.mem_filter, Bool.not_eq_true',
      Bool.or_eq_true, beq_eq_false_iff_ne, decide_eq_true_eq]
    constructor
    · rintro ⟨⟨hout, hlow⟩, -⟩
      refine ⟨hev, hout, fun f hf => ?_⟩
      by_cases hfe : f.2.index = e.2.index
      · exact hlow f ⟨hf, fun hfv => hev (hfe.symm.trans hfv)⟩
      · exact Or.inl hfe
    · rintro ⟨-, hout, hlow⟩
      exact ⟨⟨hout, fun f hf => hlow f hf.1⟩, hev⟩

theorem withoutAll_nil (b : HeightBands table) : b.withoutAll [] = b :=
  ext_toList (List.filter_eq_self.mpr fun _ _ => rfl)

theorem withoutAll_cons (b : HeightBands table) (v : AirspaceVector table) (vs : List (AirspaceVector table)) :
    b.withoutAll (v :: vs) = (b.without v).withoutAll vs := by
  refine ext_toList ?_
  simp only [withoutAll, without, filter, restrict, List.filter_filter]
  refine List.filter_congr fun e he => ?_
  rw [List.any_cons, Bool.not_or, Bool.and_comm]

/-! ### The order -/

variable [Scalar R] {levels n : Nat} {point : Point R}

/-- The larger distance goes first and, if both distances are equal, the lower altitude. -/
def GoesBefore (e f : Altitude × AirspaceVector table) : Prop :=
  f.2.distance ≤ e.2.distance ∧ (e.2.distance ≤ f.2.distance → e.1 ≤ f.1)

instance (e f : Altitude × AirspaceVector table) : Decidable (GoesBefore e f) :=
  inferInstanceAs (Decidable (f.2.distance ≤ e.2.distance ∧ (e.2.distance ≤ f.2.distance → e.1 ≤ f.1)))

def sheddingOrder (b : HeightBands table) : List (Altitude × AirspaceVector table) :=
  b.lowestOutside.insertionSort GoesBefore

/-- The bands without those of the first airspaces of the order. -/
def withoutFirst (b : HeightBands table) (n : Nat) : HeightBands table :=
  b.withoutAll ((b.sheddingOrder.take n).map Prod.snd)

/-- Bands with defined distances, of which those of one airspace agree on distance and flag. -/
structure Agreeing (b : HeightBands table) : Prop where
  defined : Defined b.vectors
  distance : ∀ e ∈ b.toList, ∀ f ∈ b.toList, e.2.index = f.2.index → e.2.distance ≤ f.2.distance
  inside : ∀ e ∈ b.toList, ∀ f ∈ b.toList, e.2.index = f.2.index → e.2.inside = f.2.inside

/-- No airspace has two vectors. -/
def OnePerAirspace (b : HeightBands table) : Prop :=
  ∀ e ∈ b.toList, ∀ f ∈ b.toList, e.2.index = f.2.index → e.2 = f.2

theorem Agreeing.without (hb : b.Agreeing) (v : AirspaceVector table) : (b.without v).Agreeing where
  defined w hw := hb.defined w (vectors_without_subset hw)
  distance e he f hf := hb.distance e (mem_without.mp he).1 f (mem_without.mp hf).1
  inside e he f hf := hb.inside e (mem_without.mp he).1 f (mem_without.mp hf).1

theorem eq_of_goesBefore (he : e ∈ b.toList) (hf : f ∈ b.toList) (hef : GoesBefore e f)
    (hfe : GoesBefore f e) : e = f :=
  eq_of_key_eq he hf (le_antisymm (hef.2 hfe.1) (hfe.2 hef.1))

theorem perm_sheddingOrder (b : HeightBands table) : b.sheddingOrder.Perm b.lowestOutside :=
  List.perm_insertionSort _ _

theorem mem_sheddingOrder : e ∈ b.sheddingOrder ↔
    e ∈ b.toList ∧ e.2.inside = false ∧ ∀ f ∈ b.toList, f.2.index = e.2.index → e.1 ≤ f.1 := by
  rw [b.perm_sheddingOrder.mem_iff, mem_lowestOutside]

/-- An airspace has one band in the order. -/
theorem eq_of_mem_sheddingOrder (he : e ∈ b.sheddingOrder) (hf : f ∈ b.sheddingOrder)
    (hi : e.2.index = f.2.index) : e = f := by
  obtain ⟨heb, -, helow⟩ := mem_sheddingOrder.mp he
  obtain ⟨hfb, -, hflow⟩ := mem_sheddingOrder.mp hf
  exact eq_of_key_eq heb hfb (le_antisymm (helow f hfb hi.symm) (hflow e heb hi))

theorem Agreeing.exists_mem_sheddingOrder (hb : b.Agreeing) (he : e ∈ b.toList) (hout : e.2.inside = false) :
    ∃ f ∈ b.sheddingOrder, f.2.index = e.2.index := by
  -- The band found first from below is the lowest one.
  have hsome : (b.toList.find? (·.2.sameAirspace e.2)).isSome = true :=
    List.find?_isSome.mpr ⟨e, he, sameAirspace_iff.mpr rfl⟩
  obtain ⟨f, hf⟩ := Option.isSome_iff_exists.mp hsome
  obtain ⟨hsame, l₁, l₂, hl, hother⟩ := List.find?_eq_some_iff_append.mp hf
  have hidx : f.2.index = e.2.index := sameAirspace_iff.mp hsame
  have hfb : f ∈ b.toList := List.mem_of_find?_eq_some hf
  refine ⟨f, mem_sheddingOrder.mpr ⟨hfb, (hb.inside f hfb e he hidx).trans hout, fun g hg hgf => ?_⟩, hidx⟩
  have hasc := b.ascending
  rw [hl] at hg hasc
  rcases List.mem_append.mp hg with hg | hg
  · have hne := hother g hg
    rw [sameAirspace_iff.mpr (hgf.trans hidx)] at hne
    cases hne
  rcases List.mem_cons.mp hg with rfl | hg
  · exact le_rfl
  · exact le_of_lt ((List.pairwise_cons.mp (List.pairwise_append.mp hasc).2.1).1 g hg)

theorem mem_withoutFirst : e ∈ (b.withoutFirst n).toList ↔
    e ∈ b.toList ∧ ∀ f ∈ b.sheddingOrder.take n, e.2.index ≠ f.2.index := by
  simp only [withoutFirst, withoutAll, filter, restrict, List.mem_filter, List.any_map, Bool.not_eq_true',
    List.any_eq_false, Function.comp_apply, sameAirspace_iff, ne_eq]

/-- No airspace stays in part. -/
theorem mem_withoutFirst_of_index (he : e ∈ b.toList) (hf : f ∈ (b.withoutFirst n).toList)
    (hidx : e.2.index = f.2.index) : e ∈ (b.withoutFirst n).toList := by
  refine mem_withoutFirst.mpr ⟨he, ?_⟩
  rw [hidx]
  exact (mem_withoutFirst.mp hf).2

theorem withoutFirst_zero (b : HeightBands table) : b.withoutFirst 0 = b :=
  b.withoutAll_nil

section Ordered
variable [Scalar.Ordered R]

theorem OnePerAirspace.agreeing (hb : b.OnePerAirspace) (hd : Defined b.vectors) : b.Agreeing where
  defined := hd
  distance e he f hf hi := by
    have hdef := hd e.2 (List.mem_map_of_mem he)
    rw [← hb e he f hf hi]
    exact (Scalar.Ordered.le_total hdef hdef).elim id id
  inside e he f hf hi := by
    rw [hb e he f hf hi]

theorem onePerAirspace_of_subset (hd : Defined vs) (hb : b.toList ⊆ (resolve vs).toList) : b.OnePerAirspace := by
  intro e he f hf hi
  exact eq_of_index hd (hb he) (hb hf) hi

/-! ### One step -/

theorem goesBefore_trans (hef : GoesBefore e f) (hfg : GoesBefore f g) : GoesBefore e g := by
  refine ⟨Scalar.Ordered.le_trans hfg.1 hef.1, fun heg => ?_⟩
  exact le_trans (hef.2 (Scalar.Ordered.le_trans heg hfg.1)) (hfg.2 (Scalar.Ordered.le_trans hef.1 heg))

theorem goesBefore_total (he : Scalar.isDefined e.2.distance = true) (hf : Scalar.isDefined f.2.distance = true) :
    GoesBefore e f ∨ GoesBefore f e := by
  by_cases hfe : f.2.distance ≤ e.2.distance
  · by_cases hef : e.2.distance ≤ f.2.distance
    · exact (le_total e.1 f.1).imp (fun hk => ⟨hfe, fun _ => hk⟩) (fun hk => ⟨hef, fun _ => hk⟩)
    · exact Or.inl ⟨hfe, fun h => absurd h hef⟩
  · exact Or.inr ⟨(Scalar.Ordered.le_total he hf).resolve_right hfe, fun h => absurd h hfe⟩

theorem pairwise_sheddingOrder (hd : Defined b.vectors) : b.sheddingOrder.Pairwise GoesBefore := by
  -- Only among defined distances can any two be compared, so what is sorted carries its membership.
  have hdef : ∀ e : { e // e ∈ b.lowestOutside }, Scalar.isDefined e.1.2.distance = true := fun e =>
    hd _ (List.mem_map_of_mem (mem_lowestOutside.mp e.2).1)
  let r (e f : { e // e ∈ b.lowestOutside }) : Prop := GoesBefore e.1 f.1
  have : Std.Total r := ⟨fun e f => goesBefore_total (hdef e) (hdef f)⟩
  have : IsTrans _ r := ⟨fun e f g => goesBefore_trans⟩
  have hmap : (b.lowestOutside.attach.insertionSort r).map Subtype.val = b.sheddingOrder := by
    rw [List.map_insertionSort r GoesBefore Subtype.val _ fun _ _ _ _ => Iff.rfl, List.attach_map_subtype_val,
      sheddingOrder]
  rw [← hmap, List.pairwise_map]
  exact List.pairwise_insertionSort r _

/-- Without an airspace the others keep their order. -/
theorem sheddingOrder_without (hd : Defined b.vectors) (v : AirspaceVector table) :
    (b.without v).sheddingOrder = b.sheddingOrder.filter fun e => !e.2.sameAirspace v := by
  refine List.Perm.eq_of_pairwise (fun e f he hf => ?_)
    (pairwise_sheddingOrder fun w hw => hd w (vectors_without_subset hw)) ((pairwise_sheddingOrder hd).filter _) ?_
  · exact eq_of_goesBefore (mem_without.mp (mem_sheddingOrder.mp he).1).1
      (mem_sheddingOrder.mp (List.mem_filter.mp hf).1).1
  · calc (b.without v).sheddingOrder
        |>.Perm (b.without v).lowestOutside := perm_sheddingOrder _
      _ = b.lowestOutside.filter fun e => !e.2.sameAirspace v := lowestOutside_without b v
      _ |>.Perm (b.sheddingOrder.filter fun e => !e.2.sameAirspace v) := (perm_sheddingOrder b).symm.filter _

theorem sheddingOrder_without_head (hd : Defined b.vectors) (horder : b.sheddingOrder = e :: rest) :
    (b.without e.2).sheddingOrder = rest := by
  have hnodup : b.sheddingOrder.Nodup := b.perm_sheddingOrder.nodup_iff.mpr b.nodup_lowestOutside
  rw [sheddingOrder_without hd, horder]
  rw [horder, List.nodup_cons] at hnodup
  rw [List.filter_cons_of_neg (by simp [sameAirspace]), List.filter_eq_self]
  intro f hf
  have hne : f.2.index ≠ e.2.index := fun hi => by
    have hfe := eq_of_mem_sheddingOrder (horder ▸ List.mem_cons_of_mem e hf) (horder ▸ List.mem_cons_self) hi
    exact hnodup.1 (hfe ▸ hf)
  simp [sameAirspace, hne]

/-- What is dropped first is the head of the order. -/
theorem Agreeing.exists_sheddingOrder_eq_cons (hb : b.Agreeing) (hv : b.farthestOutside? = some v) :
    ∃ e rest, b.sheddingOrder = e :: rest ∧ e.2 = v := by
  obtain ⟨⟨k, hk⟩, hout⟩ := mem_of_farthestOutside? hv
  obtain ⟨f, hf, hidx⟩ := hb.exists_mem_sheddingOrder hk hout
  obtain ⟨hfb, -, hlow⟩ := mem_sheddingOrder.mp hf
  cases horder : b.sheddingOrder with
  | nil =>
    rw [horder] at hf
    cases hf
  | cons e rest =>
    refine ⟨e, rest, rfl, ?_⟩
    have hsorted := pairwise_sheddingOrder hb.defined
    rw [horder] at hf hsorted
    obtain ⟨heb, heout, -⟩ := mem_sheddingOrder.mp (horder ▸ List.mem_cons_self : e ∈ b.sheddingOrder)
    have hev : e.2.distance ≤ v.distance := distance_le_of_farthestOutside? hb.defined hv heb heout
    have hvf : v.distance ≤ f.2.distance := hb.distance (k, v) hk f hfb hidx.symm
    rcases List.mem_cons.mp hf with rfl | hf
    · obtain ⟨k', hk', hle⟩ := exists_le_of_farthestOutside? hb.defined hv heb heout hvf
      exact congrArg Prod.snd (eq_of_key_eq heb hk' (le_antisymm (hlow _ hk' hidx.symm) hle))
    · obtain ⟨hfe, hkey⟩ := (List.pairwise_cons.mp hsorted).1 f hf
      -- Both are at the largest distance, and then no band of the dropped airspace is below.
      obtain ⟨k', hk', hle⟩ :=
        exists_le_of_farthestOutside? hb.defined hv heb heout (Scalar.Ordered.le_trans hvf hfe)
      have hek' : e.1 ≤ k' := (hkey (Scalar.Ordered.le_trans hev hvf)).trans (hlow _ hk' hidx.symm)
      exact congrArg Prod.snd (eq_of_key_eq heb hk' (le_antisymm hek' hle))

theorem withoutFirst_succ (hd : Defined b.vectors) (horder : b.sheddingOrder = e :: rest) (n : Nat) :
    b.withoutFirst (n + 1) = (b.without e.2).withoutFirst n := by
  rw [withoutFirst, withoutFirst, sheddingOrder_without_head hd horder, horder, List.take_succ_cons,
    List.map_cons, withoutAll_cons]

/-! ### The whole loop -/

/-- Shedding takes away a prefix of the order, and no shorter one leaves few enough bands. -/
theorem Agreeing.exists_shed_eq_withoutFirst (hb : b.Agreeing) (levels : Nat) :
    ∃ n ≤ b.sheddingOrder.length, (b.shed levels).2 = b.withoutFirst n ∧
      ∀ m < n, levels < (b.withoutFirst m).size := by
  fun_induction shed levels b with
  | case1 b hs => exact ⟨0, Nat.zero_le _, b.withoutFirst_zero.symm, by simp⟩
  | case2 b hs hnone => exact ⟨0, Nat.zero_le _, b.withoutFirst_zero.symm, by simp⟩
  | case3 b hs v hv _ dropped rest hrest ih =>
    -- The head of the order goes, and its tail is the order of what is left.
    obtain ⟨e, others, horder, rfl⟩ := hb.exists_sheddingOrder_eq_cons hv
    obtain ⟨n, hn, hshed, hmore⟩ := ih (hb.without e.2)
    rw [hrest] at hshed
    refine ⟨n + 1, ?_, hshed.trans (withoutFirst_succ hb.defined horder n).symm, ?_⟩
    · rw [sheddingOrder_without_head hb.defined horder] at hn
      rw [horder, List.length_cons]
      omega
    · intro m hm
      cases m with
      | zero =>
        rw [withoutFirst_zero]
        omega
      | succ m =>
        rw [withoutFirst_succ hb.defined horder]
        exact hmore m (by omega)

/-- Whatever number of airspaces is taken away, no other one is farther than these. -/
theorem Agreeing.distance_le_of_not_mem_withoutFirst (hb : b.Agreeing) (he : e ∈ b.toList)
    (hgone : e ∉ (b.withoutFirst n).toList) (hf : f ∈ (b.withoutFirst n).toList) (hout : f.2.inside = false) :
    f.2.distance ≤ e.2.distance := by
  obtain ⟨hfb, hkept⟩ := mem_withoutFirst.mp hf
  obtain ⟨e', he', hidx⟩ : ∃ e' ∈ b.sheddingOrder.take n, e.2.index = e'.2.index := by
    by_contra hnone
    exact hgone (mem_withoutFirst.mpr ⟨he, fun e' he' hidx => hnone ⟨e', he', hidx⟩⟩)
  obtain ⟨f', hf', hidx'⟩ := hb.exists_mem_sheddingOrder hfb hout
  have hsorted := pairwise_sheddingOrder hb.defined
  have heb' : e' ∈ b.toList := (mem_sheddingOrder.mp (List.mem_of_mem_take he')).1
  have hfb' : f' ∈ b.toList := (mem_sheddingOrder.mp hf').1
  rw [← List.take_append_drop n b.sheddingOrder] at hf' hsorted
  have hdrop : f' ∈ b.sheddingOrder.drop n :=
    (List.mem_append.mp hf').resolve_left fun h => hkept f' h hidx'.symm
  have hbefore := (List.pairwise_append.mp hsorted).2.2 e' he' f' hdrop
  exact Scalar.Ordered.le_trans (hb.distance f hfb f' hfb' hidx'.symm)
    (Scalar.Ordered.le_trans hbefore.1 (hb.distance e' heb' e he hidx.symm))

theorem Agreeing.exists_trim_eq_ok (hb : b.Agreeing) (hroom : b.insideBands.length ≤ levels) :
    ∃ n ≤ b.sheddingOrder.length, b.trim levels point = .ok (b.withoutFirst n) ∧
      (b.withoutFirst n).size ≤ levels ∧ ∀ m < n, levels < (b.withoutFirst m).size := by
  obtain ⟨n, hn, hshed, hmore⟩ := hb.exists_shed_eq_withoutFirst levels
  have hsize : (b.withoutFirst n).size ≤ levels := by
    rw [← hshed, ← not_lt, lt_size_shed_iff hb.inside, not_lt]
    exact hroom
  exact ⟨n, hn, trim_eq_ok_iff.mpr ⟨hshed.symm, hsize⟩, hsize, hmore⟩

/-- Trimming fails just if too many bands contain the point. Otherwise the airspaces of the shortest prefix of the
    order go that leaves few enough bands. So all bands with the point inside stay, no airspace stays in part, and
    one that goes is at least as far as every one that stays without the point inside. -/
theorem trim_eq_withoutFirst (hb : b.Agreeing) (levels : Nat) (point : Point R) :
    (∀ x, b.trim levels point = .error x ↔ x = ⟨point, levels⟩ ∧ levels < b.insideBands.length) ∧
    (b.insideBands.length ≤ levels → ∃ n ≤ b.sheddingOrder.length,
      b.trim levels point = .ok (b.withoutFirst n) ∧ (b.withoutFirst n).size ≤ levels ∧
      ∀ m < n, levels < (b.withoutFirst m).size) ∧
    ∀ c, b.trim levels point = .ok c →
      (∀ e ∈ b.toList, e.2.inside = true → e ∈ c.toList) ∧
      (∀ e ∈ b.toList, ∀ f ∈ c.toList, e.2.index = f.2.index → e ∈ c.toList) ∧
      ∀ e ∈ b.toList, e ∉ c.toList → ∀ f ∈ c.toList, f.2.inside = false →
        f.2.distance ≤ e.2.distance := by
  refine ⟨fun x => ?_, hb.exists_trim_eq_ok, fun c hc => ?_⟩
  · rw [trim_eq_error_iff, lt_size_shed_iff hb.inside]
  obtain ⟨rfl, -⟩ := trim_eq_ok_iff.mp hc
  obtain ⟨n, -, hshed, -⟩ := hb.exists_shed_eq_withoutFirst levels
  refine ⟨fun e he hin => mem_shed_of_inside hb.inside he hin, fun e he f hf hidx => ?_, ?_⟩
  · rw [hshed] at hf ⊢
    exact mem_withoutFirst.mpr ⟨he, fun g hg => hidx ▸ (mem_withoutFirst.mp hf).2 g hg⟩
  · rw [hshed]
    exact fun e he hgone f => hb.distance_le_of_not_mem_withoutFirst he hgone

end Ordered

/-- An airspace around the point and three others, two of them at one distance and with two bands each. -/
def sixBands : HeightBands (.ofBands [(0, 4000), (1000, 2000), (2000, 6000), (4000, 5000)] : AirspaceTable Float) :=
  .ofList
    [(⟨0, .sea⟩, .measured ⟨0, by decide⟩ 5000 90 false), (⟨1000, .sea⟩, .measured ⟨1, by decide⟩ 100 0 true),
      (⟨2000, .sea⟩, .measured ⟨2, by decide⟩ 5000 180 false),
      (⟨3000, .sea⟩, .measured ⟨0, by decide⟩ 5000 90 false),
      (⟨4000, .sea⟩, .measured ⟨3, by decide⟩ 700 270 false),
      (⟨5000, .sea⟩, .measured ⟨2, by decide⟩ 5000 180 false)]

/-- For three levels both of those at one distance have to go, and for none the one around the point is too much. -/
theorem trim_eq_withoutFirst_sixBands : sixBands.Agreeing ∧
    sixBands.sheddingOrder.map Prod.fst = [⟨0, .sea⟩, ⟨2000, .sea⟩, ⟨4000, .sea⟩] ∧
    sixBands.trim 3 ⟨48.7, 9.15⟩ = .ok (sixBands.withoutFirst 2) ∧
    (sixBands.withoutFirst 2).keys = [⟨1000, .sea⟩, ⟨4000, .sea⟩] ∧
    sixBands.trim 0 ⟨48.7, 9.15⟩ = .error ⟨⟨48.7, 9.15⟩, 0⟩ := by
  have hb : sixBands.Agreeing := ⟨by decide +kernel, by decide +kernel, by decide +kernel⟩
  obtain ⟨-, hroom, -⟩ := trim_eq_withoutFirst hb 3 ⟨48.7, 9.15⟩
  obtain ⟨hgiven, -, -⟩ := trim_eq_withoutFirst hb 0 ⟨48.7, 9.15⟩
  have hsize : (sixBands.withoutFirst 0).size = 6 ∧ (sixBands.withoutFirst 1).size = 4 ∧
      (sixBands.withoutFirst 2).size = 2 := by decide +kernel
  obtain ⟨n, -, htrim, hfits, hmore⟩ := hroom (by decide +kernel)
  have hn : n = 2 := by
    rcases lt_trichotomy n 2 with hlt | heq | hgt
    · have hfew : n = 0 ∨ n = 1 := by omega
      rcases hfew with rfl | rfl <;> omega
    · exact heq
    · have := hmore 2 hgt
      omega
  exact ⟨hb, by decide +kernel, hn ▸ htrim, by decide +kernel, (hgiven _).mpr ⟨rfl, by decide +kernel⟩⟩

end AirspaceRaster.HeightBands
