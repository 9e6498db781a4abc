import AirspaceRaster.Airspace.Basic
import AirspaceRaster.Proofs.Number.Comparison

/-! Boxes as least upper bounds, on doubles as well as on exact numbers. The sides of a box around some points are the
    ends of their longitudes and of their latitudes. Extending by a point, merging two boxes and stretching a range
    all keep that, and it determines the box, so boxes that are put around the same points in different ways are
    equal. Equality is that of the sides, by which zeros of either sign are one number. -/

namespace AirspaceRaster
open Scalar

variable {R : Type} [Scalar R]

def Point.IsDefined (p : Point R) : Prop :=
  isDefined p.lat = true ∧ isDefined p.lon = true

instance (p : Point R) : Decidable p.IsDefined :=
  inferInstanceAs (Decidable (_ ∧ _))

namespace BoundingBox

instance : BEq (BoundingBox R) where
  beq b c := b.left == c.left && b.top == c.top && b.right == c.right && b.bottom == c.bottom

/-- The sides of the box are the ends of the coordinates of the points. -/
structure Hull (ps : List (Point R)) (b : BoundingBox R) : Prop where
  lon : Ends (ps.map Point.lon) b.left b.right
  lat : Ends (ps.map Point.lat) b.bottom b.top

/-- The box lies within another one. -/
structure Within (b c : BoundingBox R) : Prop where
  left : c.left ≤ b.left
  right : b.right ≤ c.right
  bottom : c.bottom ≤ b.bottom
  top : b.top ≤ c.top

/-- A box around some points, or none around no point. -/
def IsHull? (ps : List (Point R)) : Option (BoundingBox R) → Prop
  | none => ps = []
  | some b => Hull ps b

variable {ps qs : List (Point R)} {p : Point R} {b c d : BoundingBox R} {o o' : Option (BoundingBox R)}

theorem Hull.attained (h : Hull ps b) :
    (∃ p ∈ ps, p.lon = b.left) ∧ (∃ p ∈ ps, p.lat = b.top) ∧ (∃ p ∈ ps, p.lon = b.right) ∧
      ∃ p ∈ ps, p.lat = b.bottom :=
  ⟨List.mem_map.mp h.lon.lo_mem, List.mem_map.mp h.lat.hi_mem, List.mem_map.mp h.lon.hi_mem,
    List.mem_map.mp h.lat.lo_mem⟩

theorem Hull.contains (h : Hull ps b) (hp : p ∈ ps) : b.contains p = true :=
  contains_iff.mpr ⟨h.lat.le p.lat (List.mem_map_of_mem hp), h.lon.le p.lon (List.mem_map_of_mem hp)⟩

variable [Comparable R]

theorem Within.contains (h : b.Within d) (hp : b.contains p = true) : d.contains p = true := by
  obtain ⟨⟨hbottom, htop⟩, hleft, hright⟩ := contains_iff.mp hp
  exact contains_iff.mpr ⟨⟨Ordered.le_trans h.bottom hbottom, Ordered.le_trans htop h.top⟩,
    Ordered.le_trans h.left hleft, Ordered.le_trans hright h.right⟩

/-- A box around some points lies within just those boxes that contain them. -/
theorem Hull.within_iff (h : Hull ps b) : b.Within d ↔ ∀ p ∈ ps, d.contains p = true := by
  constructor
  · intro hwithin p hp
    exact hwithin.contains (h.contains hp)
  · intro hd
    obtain ⟨⟨west, hwest, hleft⟩, ⟨north, hnorth, htop⟩, ⟨east, heast, hright⟩, south, hsouth, hbottom⟩ := h.attained
    constructor
    · rw [← hleft]
      exact (contains_iff.mp (hd west hwest)).2.1
    · rw [← hright]
      exact (contains_iff.mp (hd east heast)).2.2
    · rw [← hbottom]
      exact (contains_iff.mp (hd south hsouth)).1.1
    · rw [← htop]
      exact (contains_iff.mp (hd north hnorth)).1.2

theorem Hull.beq (hb : Hull ps b) (hc : Hull qs c) (hmem : ∀ p, p ∈ ps ↔ p ∈ qs) : (b == c) = true := by
  have hmap : ∀ (f : Point R → R) x, x ∈ ps.map f ↔ x ∈ qs.map f := by
    intro f x
    simp only [List.mem_map, hmem]
  obtain ⟨hleft, hright⟩ := hb.lon.beq hc.lon (hmap Point.lon)
  obtain ⟨hbottom, htop⟩ := hb.lat.beq hc.lat (hmap Point.lat)
  show (b.left == c.left && b.top == c.top && b.right == c.right && b.bottom == c.bottom) = true
  rw [hleft, htop, hright, hbottom]
  rfl

/-- The same points have equal boxes around them. -/
theorem IsHull?.beq (ho : IsHull? ps o) (ho' : IsHull? qs o') (hmem : ∀ p, p ∈ ps ↔ p ∈ qs) : (o == o') = true := by
  cases o with
  | none =>
    obtain rfl : ps = [] := ho
    cases o' with
    | none => rfl
    | some c =>
      obtain ⟨⟨p, hp, -⟩, -⟩ := Hull.attained ho'
      exact absurd ((hmem p).mpr hp) List.not_mem_nil
  | some b =>
    cases o' with
    | none =>
      obtain rfl : qs = [] := ho'
      obtain ⟨⟨p, hp, -⟩, -⟩ := Hull.attained ho
      exact absurd ((hmem p).mp hp) List.not_mem_nil
    | some c => exact Hull.beq ho ho' hmem

/-! ### Putting boxes around points -/

theorem hull_ofPoint (hp : p.IsDefined) : Hull [p] (ofPoint p) :=
  ⟨ends_singleton hp.2, ends_singleton hp.1⟩

theorem Hull.merge (hb : Hull ps b) (hc : Hull qs c) : Hull (ps ++ qs) (merge b c) := by
  constructor
  · rw [List.map_append]
    exact hb.lon.append hc.lon
  · rw [List.map_append]
    exact hb.lat.append hc.lat

theorem Hull.foldl_extend (hb : Hull ps b) (hqs : ∀ p ∈ qs, p.IsDefined) : Hull (ps ++ qs) (qs.foldl extend b) := by
  induction qs generalizing ps b with
  | nil =>
    rw [List.append_nil]
    exact hb
  | cons q qs ih =>
    obtain ⟨hq, hqs⟩ := List.forall_mem_cons.mp hqs
    -- To extend a box by a point is to merge it with the box around the point.
    have hext : Hull (ps ++ [q]) (extend b q) := hb.merge (hull_ofPoint hq)
    rw [List.append_cons]
    exact ih hext hqs

theorem isHull?_ofPoints? (hps : ∀ p ∈ ps, p.IsDefined) : IsHull? ps (ofPoints? ps) := by
  cases ps with
  | nil => rfl
  | cons p ps =>
    obtain ⟨hp, hps⟩ := List.forall_mem_cons.mp hps
    exact (hull_ofPoint hp).foldl_extend hps

/-! ### Merging many boxes -/

section Many
variable {α : Type} {corners : α → List (Point R)} {box? : α → Option (BoundingBox R)} {as : List α}

theorem Hull.foldl_merge (hb : Hull ps b) (has : ∀ a ∈ as, IsHull? (corners a) (box? a)) :
    Hull (ps ++ as.flatMap corners) ((as.filterMap box?).foldl BoundingBox.merge b) := by
  induction as generalizing ps b with
  | nil =>
    rw [List.flatMap_nil, List.append_nil]
    exact hb
  | cons a as ih =>
    obtain ⟨ha, has⟩ := List.forall_mem_cons.mp has
    rw [List.flatMap_cons, ← List.append_assoc]
    cases hbox : box? a with
    | none =>
      rw [hbox] at ha
      have hnil : corners a = [] := ha
      rw [List.filterMap_cons_none hbox, hnil, List.append_nil]
      exact ih hb has
    | some c =>
      rw [hbox] at ha
      rw [List.filterMap_cons_some hbox]
      exact ih (hb.merge ha) has

/-- Boxes around parts of the points merge to a box around all of them; parts without a box are empty. -/
theorem isHull?_mergeAll? (has : ∀ a ∈ as, IsHull? (corners a) (box? a)) :
    IsHull? (as.flatMap corners) (mergeAll? (as.filterMap box?)) := by
  induction as with
  | nil => rfl
  | cons a as ih =>
    obtain ⟨ha, has⟩ := List.forall_mem_cons.mp has
    rw [List.flatMap_cons]
    cases hbox : box? a with
    | none =>
      rw [hbox] at ha
      have hnil : corners a = [] := ha
      rw [List.filterMap_cons_none hbox, hnil]
      exact ih has
    | some c =>
      rw [hbox] at ha
      rw [List.filterMap_cons_some hbox]
      exact Hull.foldl_merge ha has

end Many

end BoundingBox

/-! ### Rings and tables -/

section Tables
open BoundingBox

variable [Comparable R]

theorem Ring.ends_stretch {xs : List R} {range : R × R} {x : R} (h : Ends xs range.1 range.2)
    (hx : isDefined x = true) : Ends (xs ++ [x]) (stretch range x).1 (stretch range x).2 := by
  have hself : x ≤ x := isDefined_iff_le.mp hx
  have hlast : x ∈ xs ++ [x] := List.mem_append_right xs (List.mem_singleton_self x)
  have hlo : range.1 ∈ xs ++ [x] := List.mem_append_left [x] h.lo_mem
  have hhi : range.2 ∈ xs ++ [x] := List.mem_append_left [x] h.hi_mem
  have hrange : range.1 ≤ range.2 := (h.le range.1 h.lo_mem).2
  simp only [stretch]
  split
  · rename_i habove
    have habove := (Comparable.lt_iff.mp habove).1
    refine ⟨hlo, hlast, ?_⟩
    rw [List.forall_mem_append, List.forall_mem_singleton]
    exact ⟨fun y hy => ⟨(h.le y hy).1, Ordered.le_trans (h.le y hy).2 habove⟩, Ordered.le_trans hrange habove, hself⟩
  · rename_i habove
    split
    · rename_i hbelow
      have hbelow := (Comparable.lt_iff.mp hbelow).1
      refine ⟨hlast, hhi, ?_⟩
      rw [List.forall_mem_append, List.forall_mem_singleton]
      exact ⟨fun y hy => ⟨Ordered.le_trans hbelow (h.le y hy).1, (h.le y hy).2⟩, hself, Ordered.le_trans hbelow hrange⟩
    · rename_i hbelow
      refine ⟨hlo, hhi, ?_⟩
      rw [List.forall_mem_append, List.forall_mem_singleton]
      exact ⟨h.le, le_of_not_lt hx h.isDefined.1 hbelow, le_of_not_lt h.isDefined.2 hx habove⟩

theorem Ring.ends_foldl_stretch {xs ys : List R} {range : R × R} (h : Ends xs range.1 range.2)
    (hys : ∀ y ∈ ys, isDefined y = true) : Ends (xs ++ ys) (ys.foldl stretch range).1 (ys.foldl stretch range).2 := by
  induction ys generalizing xs range with
  | nil =>
    rw [List.append_nil]
    exact h
  | cons y ys ih =>
    obtain ⟨hy, hys⟩ := List.forall_mem_cons.mp hys
    rw [List.append_cons]
    exact ih (ends_stretch h hy) hys

theorem Ring.isHull?_boundingBox? {r : Ring R} (hr : ∀ p ∈ r.corners, p.IsDefined) :
    IsHull? r.corners r.boundingBox? := by
  rw [boundingBox?]
  cases hcorners : r.corners with
  | nil => rfl
  | cons p ps =>
    rw [hcorners, List.forall_mem_cons] at hr
    obtain ⟨hp, hps⟩ := hr
    have hends : ∀ {x : R} {xs : List R}, isDefined x = true → (∀ y ∈ xs, isDefined y = true) →
        Ends (x :: xs) (xs.foldl stretch (x, x)).1 (xs.foldl stretch (x, x)).2 := by
      intro x xs hx hxs
      rw [← List.singleton_append]
      exact ends_foldl_stretch (ends_singleton hx) hxs
    exact ⟨hends hp.2 (List.forall_mem_map.mpr fun q hq => (hps q hq).2),
      hends hp.1 (List.forall_mem_map.mpr fun q hq => (hps q hq).1)⟩

theorem AirspaceTable.isHull?_boundingBox? {table : AirspaceTable R}
    (htable : ∀ a ∈ table.toList, ∀ p ∈ a.boundary.corners, p.IsDefined) :
    IsHull? (table.toList.flatMap fun a => a.boundary.corners) table.boundingBox? :=
  isHull?_mergeAll? fun a ha => Ring.isHull?_boundingBox? (htable a ha)

end Tables

namespace BoundingBox

variable [Comparable R] {ps qs : List (Point R)} {table table' : AirspaceTable R}

/-- There is a box around all points but none. It contains them, each side goes through one of them, and it lies
    within every box that contains them, whatever order they come in. The boxes around two lists merge to the box
    around both, and the box of a table is the box around all corners of all rings, whatever order these come in. -/
theorem ofPoints?_join (hps : ∀ p ∈ ps, p.IsDefined) (hqs : ∀ q ∈ qs, q.IsDefined)
    (htable : ∀ a ∈ table.toList, ∀ p ∈ a.boundary.corners, p.IsDefined) :
    (ofPoints? ps = none ↔ ps = []) ∧
    (∀ b, ofPoints? ps = some b →
      (∀ p ∈ ps, b.contains p = true) ∧
      ((∃ p ∈ ps, p.lon = b.left) ∧ (∃ p ∈ ps, p.lat = b.top) ∧ (∃ p ∈ ps, p.lon = b.right) ∧
        ∃ p ∈ ps, p.lat = b.bottom) ∧
      ∀ d : BoundingBox R, (∀ p ∈ ps, d.contains p = true) → ∀ p, b.contains p = true → d.contains p = true) ∧
    (qs.Perm ps → (ofPoints? qs == ofPoints? ps) = true) ∧
    (∀ b c, ofPoints? ps = some b → ofPoints? qs = some c → (some (merge b c) == ofPoints? (ps ++ qs)) = true) ∧
    (table'.toList.Perm table.toList →
      (table'.boundingBox? == ofPoints? (table.toList.flatMap fun a => a.boundary.corners)) = true) := by
  have hbox := isHull?_ofPoints? hps
  refine ⟨?_, ?_, ?_, ?_, ?_⟩
  · cases ps with
    | nil => simp [ofPoints?]
    | cons p ps => simp [ofPoints?]
  · intro b hb
    rw [hb] at hbox
    exact ⟨fun p => Hull.contains hbox, Hull.attained hbox, fun d hd p => ((Hull.within_iff hbox).mpr hd).contains⟩
  · intro hperm
    exact (isHull?_ofPoints? hqs).beq hbox fun p => hperm.mem_iff
  · intro b c hb hc
    have hbox' := isHull?_ofPoints? hqs
    rw [hb] at hbox
    rw [hc] at hbox'
    have hmerge : IsHull? (ps ++ qs) (some (merge b c)) := Hull.merge hbox hbox'
    exact hmerge.beq (isHull?_ofPoints? (List.forall_mem_append.mpr ⟨hps, hqs⟩)) fun p => Iff.rfl
  · intro hperm
    have hall : ∀ p ∈ table.toList.flatMap fun a => a.boundary.corners, p.IsDefined := by
      intro p hp
      obtain ⟨a, ha, hp⟩ := List.mem_flatMap.mp hp
      exact htable a ha p hp
    have htable' : ∀ a ∈ table'.toList, ∀ p ∈ a.boundary.corners, p.IsDefined := fun a ha =>
      htable a (hperm.mem_iff.mp ha)
    refine (AirspaceTable.isHull?_boundingBox? htable').beq (isHull?_ofPoints? hall) fun p => ?_
    exact (hperm.flatMap_right _).mem_iff

/-- Two areas on either side of the equator and the prime meridian, and one without a boundary between them. -/
def threeAreas : AirspaceTable Float :=
  ([[⟨0, -1⟩, ⟨-2, -1⟩, ⟨-2, 0⟩], [], [⟨-0.0, 3⟩, ⟨4, 3⟩, ⟨-0.0, -0.0⟩]].map fun corners =>
    ⟨"", .restricted, ⟨0, .sea⟩, ⟨1000, .sea⟩, ⟨corners⟩⟩).toArray

theorem ofPoints?_join_threeAreas :
    (ofPoints? [⟨-0.0, 3⟩, ⟨0, -1⟩] == ofPoints? ([⟨0, -1⟩, ⟨-0.0, 3⟩] : List (Point Float))) = true ∧
    (AirspaceTable.boundingBox? threeAreas.reverse ==
      ofPoints? [⟨0, -1⟩, ⟨-2, -1⟩, ⟨-2, 0⟩, ⟨-0.0, 3⟩, ⟨4, 3⟩, ⟨-0.0, -0.0⟩]) = true := by
  have hpoints : ∀ p ∈ ([⟨0, -1⟩, ⟨-0.0, 3⟩] : List (Point Float)), p.IsDefined := by decide +kernel
  have hareas : ∀ a ∈ threeAreas.toList, ∀ p ∈ a.boundary.corners, p.IsDefined := by decide +kernel
  have hperm : threeAreas.reverse.toList.Perm threeAreas.toList := by
    rw [Array.toList_reverse]
    exact List.reverse_perm _
  obtain ⟨-, -, horder, -, htable⟩ := ofPoints?_join hpoints (fun q hq => hpoints q (List.mem_reverse.mp hq)) hareas
  exact ⟨horder (List.reverse_perm _), htable hperm⟩

end BoundingBox

end AirspaceRaster
