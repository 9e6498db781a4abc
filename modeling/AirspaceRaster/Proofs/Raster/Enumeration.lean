import AirspaceRaster.Proofs.Number.Scientific
import AirspaceRaster.Proofs.Raster.Covering

/-! The tiles of a box, on doubles. A degree that begins between two doubles is a double itself, so the whole
    degrees of the points of a box are all those from one edge to the other, and the tiles that are covered are
    the tiles of its points with their neighbours. -/

namespace AirspaceRaster

/-- A box whose edges are in order and on the globe. -/
structure BoundingBox.OnGlobe (b : BoundingBox Float) : Prop where
  south : Scalar.ofInt (-90) ≤ b.bottom
  lat : b.bottom ≤ b.top
  north : b.top ≤ Scalar.ofInt 90
  west : Scalar.ofInt (-180) ≤ b.left
  lon : b.left ≤ b.right
  east : b.right ≤ Scalar.ofInt 180

namespace Tile
open Binary64

variable {b : BoundingBox Float} {lo hi x : Float} {n : Int}

/-! ### The order -/

theorem pairwise_degrees (lo hi : Int) : (degrees lo hi).Pairwise (· < ·) := by
  rw [degrees, List.pairwise_map]
  exact List.pairwise_lt_range.imp fun h => by omega

theorem pairwise_covering (b : BoundingBox Float) : (covering b).Pairwise (· < ·) := by
  rw [covering, List.pairwise_flatMap]
  constructor
  · intro lat _
    rw [List.pairwise_map]
    refine (pairwise_degrees _ _).imp fun hlon => ?_
    exact lt_def.mpr (Or.inr ⟨rfl, hlon⟩)
  · refine (pairwise_degrees _ _).imp fun hlat t ht u hu => ?_
    obtain ⟨_, -, rfl⟩ := List.mem_map.mp ht
    obtain ⟨_, -, rfl⟩ := List.mem_map.mp hu
    exact lt_def.mpr (Or.inl hlat)

theorem nodup_covering (b : BoundingBox Float) : (covering b).Nodup :=
  (pairwise_covering b).imp fun h heq => by
    subst heq
    rcases lt_def.mp h with h | ⟨-, h⟩ <;> exact lt_irrefl _ h

/-! ### Whole degrees -/

def Fits32 (n : Int) : Prop :=
  -2147483648 ≤ n ∧ n ≤ 2147483647

/-- A coordinate whose floor is an integer of 32 bits, as are the integers next to it; so nothing is limited
    and nothing goes round. -/
structure HasDegrees (x : Float) : Prop where
  floor_eq : Scalar.floor x = .of (wholeDegrees x)
  fits : ∀ steps, -1 ≤ steps → steps ≤ 1 → Fits32 (wholeDegrees x + steps)
  shifted_eq : ∀ steps, -1 ≤ steps → steps ≤ 1 → shifted x steps = wholeDegrees x + steps

/-- The whole degrees of a coordinate on the globe are the floor of the number that it stands for. -/
theorem exists_value?_of_degrees (hlow : Scalar.ofInt (-180) ≤ x) (hhigh : x ≤ Scalar.ofInt 180) :
    ∃ q, value? x = some q ∧ wholeDegrees x = ⌊q⌋ ∧ -180 ≤ ⌊q⌋ ∧ ⌊q⌋ ≤ 180 := by
  obtain ⟨q, hq, hlow, hhigh⟩ := exists_value?_of_le_of_le (value?_ofInt (k := -180) (by decide))
    (value?_ofInt (k := 180) (by decide)) hlow hhigh
  have hfloor : Scalar.floor x = .of ⌊q⌋ := floor_of_value? hq
  obtain ⟨hge, hle⟩ := floor_bounds (abs_le.mpr ⟨by simpa using hlow, by simpa using hhigh⟩ : |q| ≤ 180)
  exact ⟨q, hq, by rw [wholeDegrees, hfloor, Whole.saturate_of (by omega) (by omega)], hge, hle⟩

theorem hasDegrees (hlow : Scalar.ofInt (-180) ≤ x) (hhigh : x ≤ Scalar.ofInt 180) : HasDegrees x := by
  obtain ⟨q, hq, hwhole, hge, hle⟩ := exists_value?_of_degrees hlow hhigh
  refine ⟨by rw [hwhole]; exact floor_of_value? hq, fun steps h₁ h₂ => ⟨by omega, by omega⟩, fun steps h₁ h₂ => ?_⟩
  rw [shifted, Int.bmod_eq_of_le (by omega) (by omega)]

theorem wholeDegrees_mono (hlow : Scalar.ofInt (-180) ≤ lo) (hle : lo ≤ hi) (hhigh : hi ≤ Scalar.ofInt 180) :
    wholeDegrees lo ≤ wholeDegrees hi := by
  obtain ⟨q, hq, hlo, -⟩ := exists_value?_of_degrees hlow (Scalar.Ordered.le_trans hle hhigh)
  obtain ⟨r, hr, hhi, -⟩ := exists_value?_of_degrees (Scalar.Ordered.le_trans hlow hle) hhigh
  rw [hlo, hhi]
  exact Int.floor_le_floor ((le_iff_of_value? hq hr).mp hle)

/-- The whole degrees from one coordinate to another, both included, are those of the coordinates between them:
    where a degree begins, there is a double. -/
theorem between_wholeDegrees_iff (hlow : Scalar.ofInt (-180) ≤ lo) (hle : lo ≤ hi) (hhigh : hi ≤ Scalar.ofInt 180) :
    wholeDegrees lo ≤ n ∧ n ≤ wholeDegrees hi ↔ ∃ x, lo ≤ x ∧ x ≤ hi ∧ wholeDegrees x = n := by
  constructor
  · rintro ⟨h₁, h₂⟩
    obtain ⟨q, hq, hlo, hge, -⟩ := exists_value?_of_degrees hlow (Scalar.Ordered.le_trans hle hhigh)
    obtain ⟨r, hr, hhi, -, hle'⟩ := exists_value?_of_degrees (Scalar.Ordered.le_trans hlow hle) hhigh
    obtain rfl | hlt := eq_or_lt_of_le h₁
    · exact ⟨lo, (le_iff_of_value? hq hq).mpr le_rfl, hle, rfl⟩
    · have hn : value? (Float.ofInt n) = some (n : ℚ) := value?_ofInt (abs_lt.mpr ⟨by omega, by omega⟩)
      have hlon : lo ≤ Float.ofInt n := (le_iff_of_value? hq hn).mpr (Int.floor_lt.mp (hlo ▸ hlt)).le
      have hnhi : Float.ofInt n ≤ hi := (le_iff_of_value? hn hr).mpr (Int.le_floor.mp (hhi ▸ h₂))
      obtain ⟨p, hp, hwhole, -⟩ := exists_value?_of_degrees (Scalar.Ordered.le_trans hlow hlon)
        (Scalar.Ordered.le_trans hnhi hhigh)
      cases hn.symm.trans hp
      exact ⟨Float.ofInt n, hlon, hnhi, hwhole.trans (Int.floor_intCast n)⟩
  · rintro ⟨x, h₁, h₂, rfl⟩
    exact ⟨wholeDegrees_mono hlow h₁ (Scalar.Ordered.le_trans h₂ hhigh),
      wholeDegrees_mono (Scalar.Ordered.le_trans hlow h₁) h₂ hhigh⟩

theorem mem_degrees_shifted_iff (hlow : Scalar.ofInt (-180) ≤ lo) (hle : lo ≤ hi) (hhigh : hi ≤ Scalar.ofInt 180) :
    n ∈ degrees (shifted lo (-1)) (shifted hi 1) ↔
      ∃ x, Scalar.isWithin lo hi x = true ∧ |n - wholeDegrees x| ≤ 1 := by
  have hlo := hasDegrees hlow (Scalar.Ordered.le_trans hle hhigh)
  have hhi := hasDegrees (Scalar.Ordered.le_trans hlow hle) hhigh
  have hbetween {n} := between_wholeDegrees_iff (n := n) hlow hle hhigh
  rw [mem_degrees, hlo.shifted_eq (-1) le_rfl (by decide), hhi.shifted_eq 1 (by decide) le_rfl]
  simp only [Scalar.isWithin_iff, abs_le]
  constructor
  · rintro ⟨h₁, h₂⟩
    -- The nearest of the degrees in between.
    have hmono := wholeDegrees_mono hlow hle hhigh
    obtain ⟨x, hx₁, hx₂, hx⟩ := hbetween.mp
      (show wholeDegrees lo ≤ max (wholeDegrees lo) (min n (wholeDegrees hi)) ∧ _ by omega)
    exact ⟨x, ⟨hx₁, hx₂⟩, by omega, by omega⟩
  · rintro ⟨x, ⟨hx₁, hx₂⟩, h₁, h₂⟩
    obtain ⟨hlow, hhigh⟩ := hbetween.mpr ⟨x, hx₁, hx₂, rfl⟩
    exact ⟨by omega, by omega⟩

/-- The tiles of a box come in their order, without a repetition. Reckoning their degrees never leaves 32 bits.
    They are the tiles of the points of the box together with the eight tiles around each of these. -/
theorem covering_exact (hb : b.OnGlobe) :
    (covering b).Pairwise (· < ·) ∧ (∀ x ∈ [b.bottom, b.top, b.left, b.right], HasDegrees x) ∧
    (∀ t, t ∈ covering b ↔ ∃ p, b.contains p = true ∧
      |t.lat - (containing p).lat| ≤ 1 ∧ |t.lon - (containing p).lon| ≤ 1) ∧
    ∀ p, b.contains p = true → ∀ lat ∈ [-1, 0, 1], ∀ lon ∈ [-1, 0, 1],
      (covering b).count ⟨(containing p).lat + lat, (containing p).lon + lon⟩ = 1 := by
  have hsouth : Scalar.ofInt (-180) ≤ b.bottom := Scalar.Ordered.le_trans (by decide +kernel) hb.south
  have hnorth : b.top ≤ Scalar.ofInt 180 := Scalar.Ordered.le_trans hb.north (by decide +kernel)
  have hmem : ∀ t, t ∈ covering b ↔ ∃ p, b.contains p = true ∧
      |t.lat - (containing p).lat| ≤ 1 ∧ |t.lon - (containing p).lon| ≤ 1 := by
    intro t
    rw [mem_covering, mem_degrees_shifted_iff hsouth hb.lat hnorth, mem_degrees_shifted_iff hb.west hb.lon hb.east]
    constructor
    · rintro ⟨⟨lat, hlat, h₁⟩, lon, hlon, h₂⟩
      exact ⟨⟨lat, lon⟩, Bool.and_eq_true_iff.mpr ⟨hlat, hlon⟩, h₁, h₂⟩
    · rintro ⟨p, hp, h₁, h₂⟩
      obtain ⟨hlat, hlon⟩ := Bool.and_eq_true_iff.mp hp
      exact ⟨⟨p.lat, hlat, h₁⟩, p.lon, hlon, h₂⟩
  refine ⟨pairwise_covering b, ?_, hmem, fun p hp lat hlat lon hlon => ?_⟩
  · simp only [List.forall_mem_cons, List.not_mem_nil, false_imp_iff, implies_true, and_true]
    exact ⟨hasDegrees hsouth (Scalar.Ordered.le_trans hb.lat hnorth),
      hasDegrees (Scalar.Ordered.le_trans hsouth hb.lat) hnorth,
      hasDegrees hb.west (Scalar.Ordered.le_trans hb.lon hb.east),
      hasDegrees (Scalar.Ordered.le_trans hb.west hb.lon) hb.east⟩
  · have hstep : ∀ k ∈ [-1, 0, 1], ∀ n : Int, |n + k - n| ≤ 1 := fun k hk n => by
      simp at hk
      rcases hk with rfl | rfl | rfl <;> simp
    exact List.count_eq_one_of_mem (nodup_covering b) ((hmem _).mpr ⟨p, hp, hstep lat hlat _, hstep lon hlon _⟩)

/-- The tiles of a box around a single point on the 180th meridian, south of the equator. -/
theorem covering_exact_meridian :
    let b : BoundingBox Float := ⟨-180, -0.5, -180, -0.5⟩
    b.OnGlobe ∧ covering b = [⟨-2, -181⟩, ⟨-2, -180⟩, ⟨-2, -179⟩, ⟨-1, -181⟩, ⟨-1, -180⟩, ⟨-1, -179⟩, ⟨0, -181⟩,
      ⟨0, -180⟩, ⟨0, -179⟩] ∧ (covering b).count ⟨0, -181⟩ = 1 := by
  intro b
  have hb : b.OnGlobe := by constructor <;> decide +kernel
  obtain ⟨-, -, -, honce⟩ := covering_exact hb
  refine ⟨hb, by decide +kernel, ?_⟩
  exact honce ⟨-0.5, -180⟩ (by decide +kernel) 1 (by decide) (-1) (by decide)

end Tile

end AirspaceRaster
