import AirspaceRaster.Number.Binary64
import AirspaceRaster.Proofs.Band.Sweep

/-! The sweep as a loop with its bands as a variable. Every round visits one altitude, and the next one is the
    limit above it, so the loop visits each limit at most once and ends in one of two ways: at the highest ceiling
    or when no limit is left. The bands that it ends with start at the limits that some airspace covers. As the
    highest limit is not covered, there are fewer bands than limits. -/

namespace AirspaceRaster.Sweep
open AirspaceVector

variable {R : Type} {table : AirspaceTable R} {vs : List (AirspaceVector table)} {top h x : Altitude}
  {b c : HeightBands table} {hs : List Altitude}

/-! ### Rounds -/

section Rounds
variable [Scalar R]

def visit (vs : List (AirspaceVector table)) (b : HeightBands table) (h : Altitude) : HeightBands table :=
  match chosenAt? vs h with
  | some v => b.insert h v
  | none => b

/-- A run of the loop: at an altitude and with some bands it goes on to visit some altitudes, and ends with the
    bands that come last. -/
inductive LoopRuns (vs : List (AirspaceVector table)) (top : Altitude) :
    Altitude → HeightBands table → List Altitude → HeightBands table → Prop
  | stop {h : Altitude} {b : HeightBands table} : ¬h < top → LoopRuns vs top h b [] b
  | last {h : Altitude} {b : HeightBands table} : h < top → nextLimit? vs h = none →
      LoopRuns vs top h b [h] (visit vs b h)
  | round {h n : Altitude} {b c : HeightBands table} {hs : List Altitude} : h < top → nextLimit? vs h = some n →
      LoopRuns vs top n (visit vs b h) hs c → LoopRuns vs top h b (h :: hs) c

theorem loopRuns_stopsFrom (vs : List (AirspaceVector table)) (top h : Altitude) (b : HeightBands table) :
    LoopRuns vs top h b (stopsFrom vs top h) ((stopsFrom vs top h).foldl (visit vs) b) := by
  fun_induction stopsFrom vs top h generalizing b with
  | case1 h htop n hn ih => exact .round htop hn (ih (visit vs b h))
  | case2 h htop hn => exact .last htop hn
  | case3 h htop => exact .stop htop

/-- The loop can take no other way. -/
theorem LoopRuns.eq_stopsFrom (hrun : LoopRuns vs top h b hs c) :
    hs = stopsFrom vs top h ∧ c = (stopsFrom vs top h).foldl (visit vs) b := by
  induction hrun with
  | stop htop =>
    rw [stopsFrom, if_neg htop]
    exact ⟨rfl, rfl⟩
  | last htop hn =>
    rw [stopsFrom, if_pos htop]
    split
    · rename_i hn'
      cases hn.symm.trans hn'
    · exact ⟨rfl, rfl⟩
  | round htop hn _ ih =>
    rw [stopsFrom, if_pos htop]
    split
    · rename_i hn'
      cases hn.symm.trans hn'
      exact ⟨congrArg _ ih.1, ih.2⟩
    · rename_i hn'
      cases hn.symm.trans hn'

end Rounds

/-! ### Bands of a run -/

theorem insertInto_of_lt {l : List (Altitude × AirspaceVector table)} (v : AirspaceVector table)
    (hl : ∀ e ∈ l, e.1 < h) : HeightBands.insertInto h v l = l ++ [(h, v)] := by
  induction l with
  | nil => rfl
  | cons e l ih =>
    obtain ⟨he, hl⟩ := List.forall_mem_cons.mp hl
    rw [HeightBands.insertInto, if_neg (lt_asymm he), if_neg (ne_of_gt he), ih hl, List.cons_append]

/-- Visiting altitudes in ascending order adds their bands behind those that there are. -/
theorem toList_foldl_visit [Scalar R] (hasc : hs.Pairwise (· < ·)) (hb : ∀ e ∈ b.toList, ∀ x ∈ hs, e.1 < x) :
    (hs.foldl (visit vs) b).toList =
      b.toList ++ hs.filterMap fun x => (chosenAt? vs x).map fun v => (x, v) := by
  induction hs generalizing b with
  | nil => simp
  | cons x hs ih =>
    obtain ⟨hx, hasc⟩ := List.pairwise_cons.mp hasc
    have hbelow : ∀ e ∈ b.toList, e.1 < x := fun e he => hb e he x List.mem_cons_self
    have hrest : ∀ e ∈ b.toList, ∀ y ∈ hs, e.1 < y := fun e he y hy => hb e he y (List.mem_cons_of_mem x hy)
    rw [List.foldl_cons, List.filterMap_cons]
    cases hv : chosenAt? vs x with
    | none =>
      have hvisit : visit vs b x = b := by rw [visit, hv]
      rw [hvisit]
      exact ih hasc hrest
    | some v =>
      have hvisit : (visit vs b x).toList = b.toList ++ [(x, v)] := by
        rw [visit, hv]
        exact insertInto_of_lt v hbelow
      rw [ih hasc, hvisit, List.append_assoc]
      · rfl
      · rw [hvisit, List.forall_mem_append, List.forall_mem_singleton]
        exact ⟨hrest, hx⟩

theorem foldl_visit_stops [Scalar R] (vs : List (AirspaceVector table)) :
    (stops vs).foldl (visit vs) .empty = resolve vs :=
  HeightBands.ext_toList (toList_foldl_visit (pairwise_stops vs) nofun)

/-! ### How many there are -/

theorem length_limits (vs : List (AirspaceVector table)) : (limits vs).length = 2 * vs.length := by
  simp [limits, List.length_flatMap, Nat.mul_comm]

/-- The sweep does not stop at the highest of the limits. -/
theorem length_stops_le (vs : List (AirspaceVector table)) : (stops vs).length ≤ 2 * vs.length - 1 := by
  by_cases hne : stops vs = []
  · rw [hne]
    exact Nat.zero_le _
  · have hnodup : (stops vs).Nodup := (pairwise_stops vs).imp fun hlt => ne_of_lt hlt
    have hcard := length_lt_card_of_exists_gt hnodup hne fun x hx => by
      obtain ⟨hlimit, -, v, hv, hlt⟩ := mem_stops.mp hx
      exact ⟨hlimit, v.ceiling, mem_limits.mpr ⟨v, hv, Or.inr rfl⟩, hlt⟩
    have hle : (limits vs).toFinset.card ≤ 2 * vs.length := length_limits vs ▸ List.toFinset_card_le _
    omega

variable [Scalar R]

theorem size_resolve_le (vs : List (AirspaceVector table)) : (resolve vs).size ≤ (stops vs).length :=
  List.length_filterMap_le _ _

theorem mem_keys_resolve : x ∈ (resolve vs).keys ↔ x ∈ limits vs ∧ ∃ v ∈ vs, v.covers x = true := by
  rw [HeightBands.keys, List.mem_map]
  constructor
  · rintro ⟨e, he, rfl⟩
    obtain ⟨hlimit, hchosen⟩ := mem_resolve.mp he
    exact ⟨hlimit, e.2, mem_of_chosenAt? hchosen⟩
  · rintro ⟨hlimit, v, hv, hcovers⟩
    obtain ⟨w, hw⟩ := exists_chosenAt? hv hcovers
    exact ⟨(x, w), mem_resolve.mpr ⟨hlimit, hw⟩, rfl⟩

/-- The loop of the sweep ends and with the bands of the sweep, and it has no other run. It visits ever higher
    altitudes, fewer than there are limits. The bands start at the floors and ceilings that some airspace covers. -/
theorem loopRuns_iff_resolve (vs : List (AirspaceVector table)) :
    (∀ low high, lowestFloor? vs = some low → highestCeiling? vs = some high → ∀ hs b,
      LoopRuns vs high low .empty hs b ↔ hs = stops vs ∧ b = resolve vs) ∧
    (stops vs).Pairwise (· < ·) ∧ (stops vs).length ≤ 2 * vs.length - 1 ∧
    (∀ x, x ∈ (resolve vs).keys ↔
      (∃ v ∈ vs, x = v.floor ∨ x = v.ceiling) ∧ ∃ v ∈ vs, v.floor ≤ x ∧ x < v.ceiling) ∧
    (resolve vs).size ≤ 2 * vs.length - 1 := by
  refine ⟨fun low high hlow hhigh hs b => ?_, pairwise_stops vs, length_stops_le vs, fun x => ?_,
    (size_resolve_le vs).trans (length_stops_le vs)⟩
  · have hstops : stops vs = stopsFrom vs high low := by simp only [stops, hlow, hhigh]
    rw [← foldl_visit_stops, hstops]
    constructor
    · exact LoopRuns.eq_stopsFrom
    · rintro ⟨rfl, rfl⟩
      exact loopRuns_stopsFrom vs high low .empty
  · simp only [mem_keys_resolve, mem_limits, covers_iff]

/-- Two bands with a gap between them, and one that lies upside down across the lower one. -/
def gapAndUpsideDown :
    List (AirspaceVector (.ofBands [(0, 1000), (3000, 4000), (2000, -500)] : AirspaceTable Float)) :=
  [.measured ⟨0, by decide⟩ 500 90 false, .measured ⟨1, by decide⟩ 100 180 false,
    .measured ⟨2, by decide⟩ 50 0 true]

theorem loopRuns_iff_resolve_gapAndUpsideDown :
    LoopRuns gapAndUpsideDown ⟨4000, .sea⟩ ⟨0, .sea⟩ .empty
      [⟨0, .sea⟩, ⟨1000, .sea⟩, ⟨2000, .sea⟩, ⟨3000, .sea⟩] (resolve gapAndUpsideDown) ∧
    ⟨2000, .sea⟩ ∉ (resolve gapAndUpsideDown).keys ∧ (resolve gapAndUpsideDown).size ≤ 5 := by
  obtain ⟨hrun, -, -, hkeys, hsize⟩ := loopRuns_iff_resolve gapAndUpsideDown
  refine ⟨(hrun _ _ (by decide) (by decide) _ _).mpr ⟨by decide +kernel, rfl⟩, ?_, hsize⟩
  rw [hkeys]
  decide

end AirspaceRaster.Sweep
