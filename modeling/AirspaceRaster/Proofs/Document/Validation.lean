import AirspaceRaster.Proofs.Document.Accounted
import AirspaceRaster.Proofs.Geo.Distinct

/-! What an entry of a class that belongs into the raster must have, in terms of the document alone: its limits as
    they are rounded, and its boundary as pairs of a longitude and a latitude. An entry that lacks something fails
    for the first thing that it lacks, and any other entry becomes an airspace whose ring is its boundary, closed. -/

namespace AirspaceRaster

namespace LimitEntry
variable {l u : LimitEntry Float}

/-- The feet of a limit, rounded and limited to 32 bits. -/
def wholeFeet (l : LimitEntry Float) : Int :=
  (Scalar.nearest l.feet).saturate (-2147483648) 2147483647

/-- A limit is below another one if it has fewer feet. At equal feet one above the sea is below one above the
    ground. -/
def IsBelow (l u : LimitEntry Float) : Prop :=
  l.wholeFeet < u.wholeFeet ∨ l.wholeFeet = u.wholeFeet ∧ l.reference = .sea ∧ u.reference = .ground

/-- A limit of finitely many feet is rounded as their number is, a half going away from zero. -/
theorem wholeFeet_of_value? {q : ℚ} (h : Binary64.value? l.feet = some q) :
    l.wholeFeet = max (-2147483648) (min 2147483647 (Exact.nearest q)) := by
  have hnearest : Scalar.nearest l.feet = .of (Exact.nearest q) := Binary64.nearest_of_value? h
  rw [wholeFeet, hnearest]
  rfl

theorem altitude_lt_iff : l.altitude < u.altitude ↔ l.IsBelow u := by
  have hrank : l.reference.rank < u.reference.rank ↔ l.reference = .sea ∧ u.reference = .ground := by
    cases l.reference <;> cases u.reference <;> decide
  exact or_congr Iff.rfl (and_congr_right fun _ => hrank)

end LimitEntry

/-! ### Faults of a boundary -/

namespace BoundaryFault
variable {R : Type} [Scalar R] {ps : List (Point R)} {p : Point R} {n : Nat}

theorem find?_eq_outOfRange_iff : find? ps = some (.outOfRange p) ↔
    ∃ before after, ps = before ++ p :: after ∧ (∀ q ∈ before, q.isValid = true) ∧ p.isValid = false := by
  have hfirst : ps.find? (!·.isValid) = some p ↔
      ∃ before after, ps = before ++ p :: after ∧ (∀ q ∈ before, q.isValid = true) ∧ p.isValid = false := by
    simp only [List.find?_eq_some_iff_append, Bool.not_eq_true', Bool.not_not]
    constructor
    · rintro ⟨hp, before, after, h, hbefore⟩
      exact ⟨before, after, h, hbefore, hp⟩
    · rintro ⟨before, after, h, hbefore, hp⟩
      exact ⟨hp, before, after, h, hbefore⟩
  rw [← hfirst, find?]
  cases ps.find? (!·.isValid) with
  | some q => simp
  | none => by_cases harea : (Point.distinct ps).length < 3 <;> simp [harea]

theorem find?_eq_tooFewPoints_iff : find? ps = some (.tooFewPoints n) ↔
    (∀ p ∈ ps, p.isValid = true) ∧ n = (Point.distinct ps).length ∧ n < 3 := by
  have hnone : ps.find? (!·.isValid) = none ↔ ∀ p ∈ ps, p.isValid = true := by simp
  rw [← hnone, find?]
  cases ps.find? (!·.isValid) with
  | some q => simp
  | none => by_cases harea : (Point.distinct ps).length < 3 <;> simp [harea] <;> omega

end BoundaryFault

/-! ### Rings as lists of pairs -/

theorem Point.ofMap_beq (a b : Float × Float) : (Point.ofMap a == Point.ofMap b) = (a == b) :=
  Bool.and_comm _ _

theorem Point.map_onMap_map_ofMap {R : Type} (ring : List (R × R)) : (ring.map Point.ofMap).map Point.onMap = ring := by
  rw [List.map_map]
  exact List.map_id ring

/-- A ring ends where it starts, unless a corner is different from itself. -/
theorem Ring.isClosed_ofBoundary {R : Type} [Scalar R] {ps : List (Point R)} (hps : ∀ p ∈ ps, (p == p) = true) :
    Ring.isClosed (Ring.ofBoundary ps).corners = true := by
  rw [Ring.ofBoundary]
  split_ifs with hclosed
  · exact hclosed
  · cases ps with
    | nil => rfl
    | cons p rest =>
      rw [Ring.isClosed, List.head?_append, List.head?_cons, Option.toList_some, List.getLast?_concat]
      exact hps p List.mem_cons_self

namespace Document

/-- The number of pairs in a list that stand for different pairs of numbers. -/
def differentPairs (boundary : List (Float × Float)) : Nat :=
  (boundary.map fun xy => (Binary64.value? xy.1, Binary64.value? xy.2)).toFinset.card

/-- A constructor of polygons appends the first place of a ring just if the last one differs from it. -/
def ClosesRings (polygon : List (Float × Float) → List (Float × Float)) : Prop :=
  ∀ ring first last, ring.head? = some first → ring.getLast? = some last →
    polygon ring = if first == last then ring else ring ++ [first]

theorem isClosed_map_ofMap {ring : List (Float × Float)} {first last : Float × Float}
    (hfirst : ring.head? = some first) (hlast : ring.getLast? = some last) :
    Ring.isClosed (ring.map Point.ofMap) = (first == last) := by
  rw [Ring.isClosed, List.head?_map, List.getLast?_map, hfirst, hlast]
  exact Point.ofMap_beq first last

/-- Closes a ring as the boundary of an airspace is closed. -/
def closeRing (ring : List (Float × Float)) : List (Float × Float) :=
  (Ring.ofBoundary (ring.map Point.ofMap)).corners.map Point.onMap

/-- The ring is the boundary, with its first place at the end if it ends elsewhere. -/
theorem closesRings_closeRing : ClosesRings closeRing := by
  intro ring first last hfirst hlast
  rw [closeRing, Ring.ofBoundary, isClosed_map_ofMap hfirst hlast]
  split_ifs
  · exact Point.map_onMap_map_ofMap ring
  · rw [List.map_append, Point.map_onMap_map_ofMap, List.head?_map, hfirst]
    rfl

end Document

namespace Entry
open Document
variable {e : Entry Float} {f : ReadFailure Float}

theorem boundary_eq (e : Entry Float) : e.boundary = e.points.map Point.onMap :=
  (Point.map_onMap_map_ofMap e.boundary).symm

/-- What an entry fails for: its band, or if there is nothing wrong with this, the first pair that is not on the
    globe, or if all of them are, the number of different pairs. -/
def Lacks (e : Entry Float) : ReadFailure Float → Prop
  | .malformed => False
  | .invalidBand name floor ceiling => name = e.name ∧ floor = e.floor.altitude ∧ ceiling = e.ceiling.altitude ∧
      ¬e.floor.IsBelow e.ceiling
  | .invalidBoundary name (.outOfRange p) => name = e.name ∧ e.floor.IsBelow e.ceiling ∧
      ∃ before after, e.boundary = before ++ p.onMap :: after ∧ (∀ xy ∈ before, (Point.ofMap xy).IsOnGlobe) ∧
        ¬p.IsOnGlobe
  | .invalidBoundary name (.tooFewPoints n) => name = e.name ∧ e.floor.IsBelow e.ceiling ∧
      (∀ xy ∈ e.boundary, (Point.ofMap xy).IsOnGlobe) ∧ n = differentPairs e.boundary ∧ n < 3

theorem isOnGlobe_iff : (∀ xy ∈ e.boundary, (Point.ofMap xy).IsOnGlobe) ↔ ∀ p ∈ e.points, p.isValid = true := by
  rw [points, List.forall_mem_map]
  exact forall₂_congr fun _ _ => Point.isValid_iff_isOnGlobe.symm

theorem differentPairs_eq (hvalid : ∀ p ∈ e.points, p.isValid = true) :
    differentPairs e.boundary = (Point.distinct e.points).length := by
  rw [Point.length_distinct_of_isValid hvalid, boundary_eq, differentPairs, List.map_map]
  rfl

theorem find?_eq_outOfRange_iff {p : Point Float} : BoundaryFault.find? e.points = some (.outOfRange p) ↔
    ∃ before after, e.boundary = before ++ p.onMap :: after ∧ (∀ xy ∈ before, (Point.ofMap xy).IsOnGlobe) ∧
      ¬p.IsOnGlobe := by
  rw [BoundaryFault.find?_eq_outOfRange_iff, ← Point.isValid_iff_isOnGlobe, Bool.not_eq_true]
  constructor
  · rintro ⟨before, after, h, hbefore, hp⟩
    refine ⟨before.map Point.onMap, after.map Point.onMap, ?_, ?_, hp⟩
    · rw [boundary_eq, h, List.map_append, List.map_cons]
    · exact List.forall_mem_map.mpr fun q hq => Point.isValid_iff_isOnGlobe.mp (hbefore q hq)
  · rintro ⟨before, after, h, hbefore, hp⟩
    refine ⟨before.map Point.ofMap, after.map Point.ofMap, ?_, ?_, hp⟩
    · rw [points, h, List.map_append, List.map_cons, Point.ofMap_onMap]
    · exact List.forall_mem_map.mpr fun xy hxy => Point.isValid_iff_isOnGlobe.mpr (hbefore xy hxy)

theorem find?_eq_tooFewPoints_iff {n : Nat} : BoundaryFault.find? e.points = some (.tooFewPoints n) ↔
    (∀ xy ∈ e.boundary, (Point.ofMap xy).IsOnGlobe) ∧ n = differentPairs e.boundary ∧ n < 3 := by
  rw [BoundaryFault.find?_eq_tooFewPoints_iff, isOnGlobe_iff]
  exact and_congr_right fun hvalid => by rw [differentPairs_eq hvalid]

theorem fault?_eq_some_iff : e.fault? = some f ↔ e.Lacks f := by
  rw [fault?]
  split_ifs with hband
  · have hbelow : ¬e.floor.IsBelow e.ceiling := fun h =>
      Altitude.not_lt.mpr hband (LimitEntry.altitude_lt_iff.mpr h)
    rcases f with _ | ⟨name, floor, ceiling⟩ | ⟨name, p | n⟩ <;> simp [Lacks, hbelow, eq_comm]
  · have hbelow : e.floor.IsBelow e.ceiling := LimitEntry.altitude_lt_iff.mp (Altitude.not_le.mp hband)
    have hmap : ∀ name fault, (BoundaryFault.find? e.points).map (ReadFailure.invalidBoundary e.name) =
        some (ReadFailure.invalidBoundary name fault) ↔
          name = e.name ∧ BoundaryFault.find? e.points = some fault := fun name fault => by
      cases BoundaryFault.find? e.points <;> simp [eq_comm]
    rcases f with _ | ⟨name, floor, ceiling⟩ | ⟨name, p | n⟩
    · simp [Lacks]
    · simp [Lacks, hbelow]
    · rw [hmap, find?_eq_outOfRange_iff]
      exact and_congr_right fun _ => (and_iff_right hbelow).symm
    · rw [hmap, find?_eq_tooFewPoints_iff]
      exact and_congr_right fun _ => (and_iff_right hbelow).symm

theorem isValid_iff : e.IsValid ↔ e.floor.IsBelow e.ceiling ∧ (∀ xy ∈ e.boundary, (Point.ofMap xy).IsOnGlobe) ∧
    ∃ a ∈ e.boundary, ∃ b ∈ e.boundary, ∃ c ∈ e.boundary, (a == b) = false ∧ (a == c) = false ∧ (b == c) = false := by
  have hthree : (∃ p ∈ e.points, ∃ q ∈ e.points, ∃ r ∈ e.points,
      (p == q) = false ∧ (p == r) = false ∧ (q == r) = false) ↔ ∃ a ∈ e.boundary, ∃ b ∈ e.boundary,
        ∃ c ∈ e.boundary, (a == b) = false ∧ (a == c) = false ∧ (b == c) = false := by
    simp only [points, List.mem_map, exists_exists_and_eq_and, Point.ofMap_beq]
  rw [isOnGlobe_iff, ← hthree]
  constructor
  · rintro ⟨hband, hglobe, harea⟩
    exact ⟨LimitEntry.altitude_lt_iff.mp hband, hglobe, (Point.three_le_length_distinct_iff hglobe).mp harea⟩
  · rintro ⟨hband, hglobe, hpoints⟩
    exact ⟨LimitEntry.altitude_lt_iff.mpr hband, hglobe, (Point.three_le_length_distinct_iff hglobe).mpr hpoints⟩

theorem convert_eq_ok_iff (hclass : e.category.isRasterized = true) {a : Airspace Float} {warnings : List Warning} :
    e.convert = .ok (some a, warnings) ↔ e.IsValid ∧ a = e.airspace ∧ warnings = e.warning?.toList := by
  cases hf : e.fault? with
  | none =>
    have hvalid := fault?_eq_none_iff.mp hf
    rw [convert_of_isValid hclass hvalid]
    simp [hvalid, eq_comm]
  | some g =>
    have hinvalid : ¬e.IsValid := fun hvalid => by simp [fault?_eq_none_iff.mpr hvalid] at hf
    simp [convert_of_fault? hclass hf, hinvalid]

theorem convert_eq_error_iff (hclass : e.category.isRasterized = true) : e.convert = .error f ↔ e.Lacks f := by
  rw [← fault?_eq_some_iff]
  cases hf : e.fault? with
  | none => simp [convert_of_isValid hclass (fault?_eq_none_iff.mp hf)]
  | some g => simp [convert_of_fault? hclass hf]

/-! ### The ring -/

section Ring
variable {first last : Float × Float}

theorem toList_warning? (hclass : e.category.isRasterized = true) (hfirst : e.boundary.head? = some first)
    (hlast : e.boundary.getLast? = some last) :
    e.warning?.toList = if first == last then [] else [.unclosedBoundary e.name] := by
  rw [warning?, hclass, points, isClosed_map_ofMap hfirst hlast]
  cases first == last <;> rfl

theorem isClosed_airspace (hvalid : ∀ p ∈ e.points, p.isValid = true) :
    Ring.isClosed e.airspace.boundary.corners = true :=
  Ring.isClosed_ofBoundary fun p hp => (Point.beq_iff_of_isValid (hvalid p hp) (hvalid p hp)).mpr rfl

end Ring

/-- An entry of a class that belongs into the raster is accepted just if its floor is below its ceiling, in whole
    feet of 32 bits, all of its boundary is on the globe and three pairs of it are different. Otherwise it fails, and
    of several reasons the first one counts: the band, a pair that is not on the globe, the number of different
    pairs. The ring of what is accepted is the boundary, with the first pair again at the end just if the last one
    differs from it, and this is what is noted. So the ring is closed, and it is the one of a polygon that closes
    the boundary by itself. -/
theorem convert_of_isRasterized (e : Entry Float) (hclass : e.category.isRasterized = true) :
    ((∃ a warnings, e.convert = .ok (some a, warnings)) ↔
      e.floor.IsBelow e.ceiling ∧ (∀ xy ∈ e.boundary, (Point.ofMap xy).IsOnGlobe) ∧
        ∃ a ∈ e.boundary, ∃ b ∈ e.boundary, ∃ c ∈ e.boundary,
          (a == b) = false ∧ (a == c) = false ∧ (b == c) = false) ∧
    (∀ l ∈ [e.floor, e.ceiling], ∀ q, Binary64.value? l.feet = some q →
      l.wholeFeet = max (-2147483648) (min 2147483647 (Exact.nearest q))) ∧
    (∀ f, e.convert = .error f ↔ e.Lacks f) ∧
    ∀ a warnings, e.convert = .ok (some a, warnings) →
      ∃ first last, e.boundary.head? = some first ∧ e.boundary.getLast? = some last ∧
        a.boundary.corners.map Point.onMap = (if first == last then e.boundary else e.boundary ++ [first]) ∧
        warnings = (if first == last then [] else [.unclosedBoundary e.name]) ∧
        Ring.isClosed a.boundary.corners = true ∧
        ∀ polygon, ClosesRings polygon → polygon e.boundary = a.boundary.corners.map Point.onMap := by
  refine ⟨?_, fun l _ q hq => LimitEntry.wholeFeet_of_value? hq, fun f => convert_eq_error_iff hclass,
    fun a warnings h => ?_⟩
  · rw [← isValid_iff]
    constructor
    · rintro ⟨a, warnings, h⟩
      exact ((convert_eq_ok_iff hclass).mp h).1
    · intro hvalid
      exact ⟨e.airspace, _, convert_of_isValid hclass hvalid⟩
  · obtain ⟨hvalid, rfl, rfl⟩ := (convert_eq_ok_iff hclass).mp h
    obtain ⟨-, -, b, hb, -⟩ := isValid_iff.mp hvalid
    have hne : e.boundary ≠ [] := List.ne_nil_of_mem hb
    have hfirst := List.head?_eq_some_head hne
    have hlast := List.getLast?_eq_some_getLast hne
    have hring : e.airspace.boundary.corners.map Point.onMap = _ := closesRings_closeRing e.boundary _ _ hfirst hlast
    exact ⟨_, _, hfirst, hlast, hring, toList_warning? hclass hfirst hlast, isClosed_airspace hvalid.onGlobe,
      fun polygon hpolygon => (hpolygon _ _ _ hfirst hlast).trans hring.symm⟩

/-- A limit that is rounded up to the feet of the other one, and a boundary that ends where it starts, with zeros of
    both signs. -/
def acrossZero : Entry Float :=
  ⟨"ZERO", some "CTR", ⟨999.5, .sea⟩, ⟨1000, .ground⟩, [(0, 0), (1, -0.0), (1, 1), (-0.0, 0)]⟩

theorem convert_of_isRasterized_acrossZero :
    acrossZero.category.isRasterized = true ∧ ClosesRings closeRing ∧
    ∃ a, acrossZero.convert = .ok (some a, []) ∧ a.boundary.corners.map Point.onMap = acrossZero.boundary ∧
      closeRing acrossZero.boundary = acrossZero.boundary := by
  have hclass : acrossZero.category.isRasterized = true := by decide
  obtain ⟨hok, -, -, hring⟩ := convert_of_isRasterized acrossZero hclass
  obtain ⟨a, warnings, h⟩ := hok.mpr ⟨Or.inr ⟨by decide +kernel, rfl, rfl⟩, isOnGlobe_iff.mpr (by decide +kernel),
    (0, 0), by simp [acrossZero], (1, -0.0), by simp [acrossZero], (1, 1), by simp [acrossZero], by decide +kernel⟩
  obtain ⟨first, last, hfirst, hlast, hcorners, hwarnings, -, hpolygon⟩ := hring a warnings h
  have hsame : (first == last) = true := by
    cases hfirst
    cases hlast
    decide +kernel
  rw [if_pos hsame] at hcorners hwarnings
  refine ⟨hclass, closesRings_closeRing, a, ?_, hcorners, ?_⟩
  · rw [h, hwarnings]
  · rw [hpolygon closeRing closesRings_closeRing, hcorners]

end Entry

end AirspaceRaster
