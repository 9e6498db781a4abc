import AirspaceRaster.Proofs.Geo.Nearest
import AirspaceRaster.Proofs.Geo.SearchBox
import AirspaceRaster.Airspace.Index

/-! Looking up airspaces with search boxes and without. The boxes only ever leave airspaces out, and they
    leave one out exactly if the point is not in its grown box. Over the real numbers this does not happen
    within reach of the box, away from the poles and from the 180 degree meridian; but the reach is less
    than the radius, so an airspace near the edge of the radius may be missed. -/

namespace AirspaceRaster

/-! ### With and without search boxes -/

section Search
variable {R : Type} [Spherical R] {table : AirspaceTable R} {radius : R} {p : Point R} {i : Fin table.size}
  {v : AirspaceVector table}

def AirspaceVector.isSearched (v : AirspaceVector table) (radius : R) (p : Point R) : Bool :=
  v.airspace.boundingBox?.any fun box => (box.expandedByMeters radius).contains p

theorem AirspaceVector.index_of_ofPoint? (hv : ofPoint? table i p = some v) : v.index = i := by
  obtain ⟨q, -, rfl⟩ := Option.map_eq_some_iff.mp hv
  rfl

namespace AirspaceIndex

/-- The airspaces within the radius of a point in the order of the table, found without search boxes. -/
def withinRadius (table : AirspaceTable R) (radius : R) (p : Point R) : List (AirspaceVector table) :=
  (List.finRange table.size).filterMap fun i =>
    (AirspaceVector.ofPoint? table i p).filter fun v => !v.isBeyond radius

/-- With search boxes exactly those airspaces are found in whose box the point lies. -/
theorem vectorsNear_eq_filter (table : AirspaceTable R) (radius : R) (p : Point R) :
    (ofTable table radius).vectorsNear p = (withinRadius table radius p).filter (·.isSearched radius p) := by
  -- What is found of one airspace: the point is looked for in its box first.
  have hstep : ∀ i : Fin table.size,
      ((table[i].boundingBox?.map fun box => (i, box.expandedByMeters radius)).bind fun (i, box) =>
        if box.contains p then (AirspaceVector.ofPoint? table i p).filter fun v => !v.isBeyond radius else none) =
      ((AirspaceVector.ofPoint? table i p).filter fun v => !v.isBeyond radius).filter
        (·.isSearched radius p) := fun i => by
    rw [Option.filter_filter]
    cases hv : AirspaceVector.ofPoint? table i p with
    | none => cases table[i].boundingBox? <;> simp [hv]
    | some v =>
      have hsearched : v.isSearched radius p =
          table[i].boundingBox?.any fun box => (box.expandedByMeters radius).contains p := by
        cases AirspaceVector.index_of_ofPoint? hv
        rfl
      rw [Option.filter_some, hsearched]
      cases table[i].boundingBox? with
      | none => simp
      | some box => cases h : (box.expandedByMeters radius).contains p <;> simp [h, hv, Option.filter_some]
  simp only [vectorsNear, ofTable, withinRadius, List.filterMap_filterMap, List.filter_filterMap, hstep]

theorem vectorsNear_eq_iff :
    (ofTable table radius).vectorsNear p = withinRadius table radius p ↔
      ∀ v ∈ withinRadius table radius p, v.isSearched radius p = true := by
  rw [vectorsNear_eq_filter]
  exact List.filter_eq_self

end AirspaceIndex

end Search

/-! ### Within reach of the boxes -/

namespace AirspaceIndex
open Exact GreatCircle

theorem isSearched_of_inReach {table : AirspaceTable ℝ} {v : AirspaceVector table} {radius : ℝ} {p : Point ℝ}
    (hp : p.isValid = true) (h : ∃ box ∈ v.airspace.boundingBox?, box.InReach radius p) :
    v.isSearched radius p = true := by
  obtain ⟨box, hbox, hreach⟩ := h
  rw [AirspaceVector.isSearched, Option.mem_def.mp hbox]
  exact BoundingBox.contains_expandedByMeters (Point.isValid_iff.mp hp).1 hreach

/-- The search boxes never add an airspace, and leave out exactly those in whose box the point does not lie. So
    nothing is left out exactly if it lies in the boxes of all airspaces within the radius, and it does lie in the
    box of every airspace in whose reach it is. -/
theorem vectorsNear_withinRadius (table : AirspaceTable ℝ) (radius : ℝ) {p : Point ℝ} (hp : p.isValid = true) :
    ((ofTable table radius).vectorsNear p = (withinRadius table radius p).filter (·.isSearched radius p)) ∧
    ((ofTable table radius).vectorsNear p = withinRadius table radius p ↔
      ∀ v ∈ withinRadius table radius p, v.isSearched radius p = true) ∧
    ∀ v : AirspaceVector table, (∃ box ∈ v.airspace.boundingBox?, box.InReach radius p) →
      v.isSearched radius p = true :=
  ⟨vectorsNear_eq_filter table radius p, vectorsNear_eq_iff, fun _ => isSearched_of_inReach hp⟩

/-! ### At the edge of the radius -/

/-- An airspace is seen no farther away than the nearest point of any of its sides. -/
theorem exists_ofPoint? {table : AirspaceTable ℝ} {p q : Point ℝ} {i : Fin table.size}
    {s : Point ℝ × Point ℝ} (hs : s ∈ table[i].boundary.sides) (hside : nearestOnSide p s.1 s.2 = .at q) :
    ∃ v, AirspaceVector.ofPoint? table i p = some v ∧ v.distance ≤ distance q p := by
  have hnone : ∀ c ∈ (none : Option (Point ℝ × ℝ)), c.2 = distance c.1 p := fun c hc => nomatch hc
  obtain ⟨r, hr, -, hnear⟩ := exists_nearestOnSides hnone (Or.inr (List.ne_nil_of_mem hs))
  have hrq : distance p r ≤ distance q p := by
    rw [distance_comm]
    exact hnear s hs q hside
  rw [AirspaceVector.ofPoint?, nearestOnRing?, hr]
  refine ⟨_, rfl, ?_⟩
  dsimp only [AirspaceVector.measured]
  split
  · exact hrq
  · exact le_trans (le_of_eq Int.cast_zero) (distance_nonneg q p)

theorem exists_mem_withinRadius {table : AirspaceTable ℝ} {radius : ℝ} {p q : Point ℝ} {i : Fin table.size}
    {s : Point ℝ × Point ℝ} (hs : s ∈ table[i].boundary.sides)
    (hside : nearestOnSide p s.1 s.2 = .at q) (hd : distance q p ≤ radius) :
    ∃ v ∈ withinRadius table radius p, v.index = i := by
  obtain ⟨v, hv, hvq⟩ := exists_ofPoint? hs hside
  have hnear : v.isBeyond radius = false := decide_eq_false (not_lt.mpr (hvq.trans hd))
  refine ⟨v, List.mem_filterMap.mpr ⟨i, List.mem_finRange i, ?_⟩, AirspaceVector.index_of_ofPoint? hv⟩
  rw [hv, Option.filter_some, hnear]
  rfl

noncomputable def squareCorners : List (Point ℝ) :=
  [⟨48, 9⟩, ⟨48, 9.2⟩, ⟨48.2, 9.2⟩, ⟨48.2, 9⟩]

noncomputable def square : AirspaceTable ℝ :=
  #[.ofBoundary "CTR" .controlZone ⟨0, .ground⟩ ⟨5000, .sea⟩ squareCorners]

theorem square_boundary (i : Fin square.size) : square[i].boundary = ⟨squareCorners ++ [⟨48, 9⟩]⟩ := by
  have hopen : Ring.isClosed squareCorners = false := by
    have hlat : ((48 : ℝ) == 48.2) = false := by
      rw [beq_eq_false_iff_ne]
      norm_num
    show ((48 : ℝ) == 48.2 && (9 : ℝ) == 9) = false
    rw [hlat, Bool.false_and]
  obtain rfl : i = ⟨0, Nat.one_pos⟩ := Fin.ext (Nat.lt_one_iff.mp i.isLt)
  show Ring.ofBoundary squareCorners = _
  rw [Ring.ofBoundary, hopen]
  rfl

theorem square_boundingBox? (i : Fin square.size) : square[i].boundingBox? = some ⟨9, 48.2, 9.2, 48⟩ := by
  rw [Airspace.boundingBox?, square_boundary]
  simp only [Ring.boundingBox?, squareCorners, List.cons_append, List.nil_append, List.map, List.foldl, Ring.stretch]
  norm_num

theorem withinRadius_square_ne_nil {d : ℝ} (hsouth : d < 48) (hnear : 48 - d ≤ 0.899) :
    withinRadius square 100000 ⟨d, 9⟩ ≠ [] := by
  have hmem : ∀ i : Fin square.size, (⟨48.2, 9⟩, ⟨48, 9⟩) ∈ square[i].boundary.sides := fun i => by
    rw [square_boundary]
    simp [Ring.sides, squareCorners]
  have hside : nearestOnSide (⟨d, 9⟩ : Point ℝ) ⟨48.2, 9⟩ ⟨48, 9⟩ = .at ⟨48, 9⟩ :=
    nearestOnSide_meridian rfl rfl (by norm_num) hsouth (by linarith)
      (negligible_lt_distance_meridian rfl (by norm_num) (by norm_num))
  have hdistance : distance (⟨48, 9⟩ : Point ℝ) ⟨d, 9⟩ ≤ 100000 := by
    have hlt : distance (⟨48, 9⟩ : Point ℝ) ⟨d, 9⟩ < 111196 * (48 - d) :=
      (distance_meridian_bounds (a := ⟨48, 9⟩) (b := ⟨d, 9⟩) rfl hsouth (by linarith)).2
    linarith
  obtain ⟨v, hv, -⟩ := exists_mem_withinRadius (hmem ⟨0, Nat.one_pos⟩) hside hdistance
  exact List.ne_nil_of_mem hv

theorem vectorsNear_withinRadius_square :
    (ofTable square 100000).vectorsNear ⟨47.5, 9⟩ = withinRadius square 100000 ⟨47.5, 9⟩ ∧
      withinRadius square 100000 ⟨47.5, 9⟩ ≠ [] := by
  have hvalid : (⟨47.5, 9⟩ : Point ℝ).isValid = true := Point.isValid_iff.mpr (by norm_num [abs_le])
  have hreach : (⟨9, 48.2, 9.2, 48⟩ : BoundingBox ℝ).InReach 100000 ⟨47.5, 9⟩ := by
    refine ⟨?_, ⟨48, 9⟩, ?_, ?_, ?_⟩
    · norm_num [BoundingBox.worstLat, BoundingBox.latMargin]
    · norm_num [BoundingBox.contains_iff]
    · norm_num
    · have hbounds := distance_meridian_bounds (a := ⟨48, 9⟩) (b := ⟨47.5, 9⟩) rfl (by norm_num) (by norm_num)
      have hle := (BoundingBox.reach_bounds (by norm_num : (0 : ℝ) < 100000)).1
      rw [distance_comm]
      exact (hbounds.2.trans (by norm_num)).le.trans hle.le
  obtain ⟨-, hiff, hsearched⟩ := vectorsNear_withinRadius square 100000 hvalid
  exact ⟨hiff.mpr fun v _ => hsearched v ⟨_, square_boundingBox? v.index, hreach⟩,
    withinRadius_square_ne_nil (by norm_num) (by norm_num)⟩

theorem isSearched_square_south (v : AirspaceVector square) : v.isSearched 100000 ⟨47.1012, 9⟩ = false := by
  have hworst : (⟨9, 48.2, 9.2, 48⟩ : BoundingBox ℝ).worstLat 100000 ≤ 89 := by
    norm_num [BoundingBox.worstLat, BoundingBox.latMargin]
  rw [AirspaceVector.isSearched, AirspaceVector.airspace, square_boundingBox?, Option.any_some, Bool.eq_false_iff,
    ne_eq, BoundingBox.contains_expandedByMeters_iff hworst]
  norm_num [BoundingBox.latMargin]

/-- A point 99942 metres to the south of the square lies outside the box for a radius of 100000 metres. -/
theorem vectorsNear_square_eq_nil : (∀ c ∈ squareCorners, c.isValid = true) ∧
    (⟨47.1012, 9⟩ : Point ℝ).isValid = true ∧ (ofTable square 100000).vectorsNear ⟨47.1012, 9⟩ = [] ∧
    withinRadius square 100000 ⟨47.1012, 9⟩ ≠ [] := by
  refine ⟨?_, Point.isValid_iff.mpr (by norm_num [abs_le]), ?_,
    withinRadius_square_ne_nil (by norm_num) (by norm_num)⟩
  · simp only [squareCorners, Point.isValid_iff, List.forall_mem_cons, List.not_mem_nil]
    norm_num [abs_le]
  · refine (vectorsNear_eq_filter square _ _).trans (List.filter_eq_nil_iff.mpr fun v _ => ?_)
    rw [isSearched_square_south]
    exact Bool.false_ne_true

end AirspaceIndex

end AirspaceRaster
