import Mathlib.Data.List.FinRange
import Mathlib.Data.List.Perm.Basic
import Mathlib.Data.List.Sort
import AirspaceRaster.Proofs.Band.Sweep

/-! What is chosen from different lists. The vector that is chosen is the first of its rivals: the vectors that
    cover the altitude as well, agree on whether the point is inside, and are no farther away. So a list may
    lose a vector that is not chosen, and may be put in another order, as long as its rivals stay in place. -/

namespace AirspaceRaster.AirspaceVector
open Sweep

variable {R : Type} {table : AirspaceTable R} {vs ws l₁ l₂ : List (AirspaceVector table)} {h : Altitude}
  {u v w : AirspaceVector table}

def Overlaps (v w : AirspaceVector table) : Prop :=
  max v.floor w.floor < min v.ceiling w.ceiling

instance : Decidable (Overlaps v w) :=
  inferInstanceAs (Decidable (_ < _))

theorem overlaps_of_covers (hv : v.covers h = true) (hw : w.covers h = true) : Overlaps v w := by
  obtain ⟨hvf, hvc⟩ := covers_iff.mp hv
  obtain ⟨hwf, hwc⟩ := covers_iff.mp hw
  exact lt_of_le_of_lt (max_le hvf hwf) (lt_min hvc hwc)

variable [Scalar R]

/-- Whether `u` could stand for an altitude in place of `v`. -/
def isRival (h : Altitude) (v u : AirspaceVector table) : Bool :=
  u.covers h && u.inside == v.inside && u.distance ≤ v.distance

theorem isRival_iff : isRival h v u = true ↔ u.covers h = true ∧ u.inside = v.inside ∧ u.distance ≤ v.distance := by
  simp [isRival, and_assoc]

/-! ### Rivals -/

section Ordered
variable [Scalar.Ordered R]

theorem find?_isRival (hd : Defined vs) (hv : chosenAt? vs h = some v) : vs.find? (isRival h v) = some v := by
  have hr := (isRanking_distance hd).subset
    (List.filter_sublist (p := fun u => u.covers h && u.inside == v.inside)).subset
  have hfind := find?_of_winner hr (nearest?_of_chosenAt? hv)
  rw [List.find?_filter] at hfind
  rw [← hfind]
  congr 1
  funext u
  rw [Bool.eq_iff_iff, isRival_iff]
  simp [and_assoc]

theorem isRival_congr (hi : v.inside = w.inside) (hvw : v.distance ≤ w.distance) (hwv : w.distance ≤ v.distance) :
    isRival h v = isRival h w := by
  funext u
  rw [Bool.eq_iff_iff, isRival_iff, isRival_iff, hi]
  constructor
  · rintro ⟨hc, hu, huv⟩
    exact ⟨hc, hu, Scalar.Ordered.le_trans huv hvw⟩
  · rintro ⟨hc, hu, huw⟩
    exact ⟨hc, hu, Scalar.Ordered.le_trans huw hwv⟩

/-- Where two lists each have what is chosen from the other one, both choices have the same rivals. -/
theorem isRival_eq_of_chosenAt? (hvs : Defined vs) (hws : Defined ws) (hv : chosenAt? vs h = some v)
    (hw : chosenAt? ws h = some w) (hvw : v ∈ ws) (hwv : w ∈ vs) : isRival h v = isRival h w := by
  have hvc := (mem_of_chosenAt? hv).2
  have hwc := (mem_of_chosenAt? hw).2
  have hi : v.inside = w.inside := by
    rw [Bool.eq_iff_iff]
    exact ⟨inside_of_chosenAt? hw hvw hvc, inside_of_chosenAt? hv hwv hwc⟩
  exact isRival_congr hi (distance_le_of_chosenAt? hvs hv hwv hwc hi.symm)
    (distance_le_of_chosenAt? hws hw hvw hvc hi)

/-- The same is chosen from a part of a list if the first of the rivals is the same there. -/
theorem chosenAt?_eq_of_subset (hd : Defined vs) (hs : ws ⊆ vs)
    (hfirst : ∀ v, chosenAt? vs h = some v → ws.find? (isRival h v) = some v) : chosenAt? ws h = chosenAt? vs h := by
  cases hv : chosenAt? vs h with
  | none =>
    rw [chosenAt?_eq_none_iff] at hv ⊢
    exact fun u hu => hv u (hs hu)
  | some v =>
    have hfind := hfirst v hv
    have hvw : v ∈ ws := List.mem_of_find?_eq_some hfind
    have hws : Defined ws := fun u hu => hd u (hs hu)
    obtain ⟨w, hw⟩ := exists_chosenAt? hvw (mem_of_chosenAt? hv).2
    have hwv : w ∈ vs := hs (mem_of_chosenAt? hw).1
    rw [isRival_eq_of_chosenAt? hd hws hv hw hvw hwv, find?_isRival hws hw] at hfind
    rw [hw, hfind]

/-- A vector can be left out where it is not chosen, or where an equal one comes before it. -/
theorem chosenAt?_append_cons (hd : Defined (l₁ ++ u :: l₂)) (hu : chosenAt? (l₁ ++ u :: l₂) h = some u → u ∈ l₁) :
    chosenAt? (l₁ ++ l₂) h = chosenAt? (l₁ ++ u :: l₂) h := by
  have hsub : (l₁ ++ l₂).Sublist (l₁ ++ u :: l₂) := (List.sublist_cons_self u l₂).append_left l₁
  refine chosenAt?_eq_of_subset hd hsub.subset fun v hv => ?_
  have hfind := find?_isRival hd hv
  rw [List.find?_append] at hfind ⊢
  cases hl : l₁.find? (isRival h v) with
  | some x =>
    rw [hl] at hfind
    exact hfind
  | none =>
    rw [hl, Option.none_or, List.find?_cons] at hfind
    rw [Option.none_or]
    split at hfind
    · rename_i hrival
      cases hfind
      exact absurd hrival (List.find?_eq_none.mp hl u (hu hv))
    · exact hfind

end Ordered

/-! ### Ties -/

/-- Two vectors at the same distance that agree on whether the point is inside and whose bands overlap, so that
    only their order decides between them. -/
structure Tied (v w : AirspaceVector table) : Prop where
  le : v.distance ≤ w.distance
  ge : w.distance ≤ v.distance
  inside : v.inside = w.inside
  overlaps : Overlaps v w

instance : Decidable (Tied v w) :=
  decidable_of_iff (v.distance ≤ w.distance ∧ w.distance ≤ v.distance ∧ v.inside = w.inside ∧ Overlaps v w)
    ⟨fun ⟨hle, hge, hi, ho⟩ => ⟨hle, hge, hi, ho⟩, fun ⟨hle, hge, hi, ho⟩ => ⟨hle, hge, hi, ho⟩⟩

theorem Tied.symm (ht : Tied v w) : Tied w v where
  le := ht.ge
  ge := ht.le
  inside := ht.inside.symm
  overlaps := by
    have := ht.overlaps
    rwa [Overlaps, max_comm, min_comm] at this

/-- Some vectors in another order, in which no two that tie change places. The order is given by the places that
    the vectors come from. -/
def KeepsTies (vs ws : List (AirspaceVector table)) : Prop :=
  ∃ order : List (Fin vs.length), order.Perm (List.finRange vs.length) ∧ ws = order.map vs.get ∧
    order.Pairwise fun i j => Tied (vs.get i) (vs.get j) → i < j

theorem KeepsTies.perm (hk : KeepsTies vs ws) : ws.Perm vs := by
  obtain ⟨order, hperm, rfl, -⟩ := hk
  have hmap := hperm.map vs.get
  rwa [List.map_get_finRange] at hmap

theorem keepsTies_of_perm (hperm : ws.Perm vs) (hne : vs.Pairwise fun v w => ¬Tied v w) : KeepsTies vs ws := by
  have hmap : ws.Perm ((List.finRange vs.length).map vs.get) := by rwa [List.map_get_finRange]
  obtain ⟨order, rfl, horder⟩ := (congrFun₂ (List.eq_map_comp_perm vs.get) ws _).mpr hmap
  refine ⟨order, horder, rfl, ?_⟩
  have hpair : (order.map vs.get).Pairwise fun v w => ¬Tied v w :=
    (hperm.pairwise_iff fun hvw hwv => hvw hwv.symm).mpr hne
  exact (List.pairwise_map.mp hpair).imp fun hij htied => absurd htied hij

section Ordered
variable [Scalar.Ordered R]

theorem tied_of_isRival (hd : Defined vs) (hv : chosenAt? vs h = some v) (hu : u ∈ vs) (hw : w ∈ vs)
    (hru : isRival h v u = true) (hrw : isRival h v w = true) : Tied u w := by
  obtain ⟨huc, hui, huv⟩ := isRival_iff.mp hru
  obtain ⟨hwc, hwi, hwv⟩ := isRival_iff.mp hrw
  exact ⟨Scalar.Ordered.le_trans huv (distance_le_of_chosenAt? hd hv hw hwc hwi),
    Scalar.Ordered.le_trans hwv (distance_le_of_chosenAt? hd hv hu huc hui), hui.trans hwi.symm,
    overlaps_of_covers huc hwc⟩

theorem KeepsTies.filter_isRival (hd : Defined vs) (hk : KeepsTies vs ws) (hv : chosenAt? vs h = some v) :
    ws.filter (isRival h v) = vs.filter (isRival h v) := by
  obtain ⟨order, hperm, rfl, hpair⟩ := hk
  have hsorted : (order.filter (isRival h v ∘ vs.get)).Pairwise (· < ·) := by
    refine (hpair.filter _).imp_of_mem fun {i j} hi hj hij => hij ?_
    exact tied_of_isRival hd hv (List.get_mem vs i) (List.get_mem vs j) (List.mem_filter.mp hi).2
      (List.mem_filter.mp hj).2
  have hplaces : order.filter (isRival h v ∘ vs.get) =
      (List.finRange vs.length).filter (isRival h v ∘ vs.get) :=
    (hperm.filter _).eq_of_pairwise' hsorted ((List.pairwise_lt_finRange _).filter _)
  conv_rhs => rw [← List.map_get_finRange vs]
  rw [List.filter_map, List.filter_map, hplaces]

theorem chosenAt?_of_keepsTies (hd : Defined vs) (hk : KeepsTies vs ws) : chosenAt? ws h = chosenAt? vs h :=
  chosenAt?_eq_of_subset hd hk.perm.subset fun v hv => by
    rw [← List.head?_filter, hk.filter_isRival hd hv, List.head?_filter, find?_isRival hd hv]

end Ordered

end AirspaceRaster.AirspaceVector
