import AirspaceRaster.Document.Reading
import AirspaceRaster.Proofs.Geo.Globe

/-! Counting different points. If points are told apart by a key, then those that are kept have the keys of all of
    them, each one once. On the globe this key is the pair of numbers that the coordinates stand for. -/

namespace AirspaceRaster.Point

section Keys
variable {R κ : Type} [Scalar R] {P : Point R → Prop} {key : Point R → κ} {seen ps : List (Point R)} {p : Point R}

/-- Points of a kind are equal just if their keys are the same. -/
def ToldApartBy (P : Point R → Prop) (key : Point R → κ) : Prop :=
  ∀ p q, P p → P q → ((p == q) = true ↔ key p = key q)

/-- The different points of two lists, the first of which has no others. -/
def distinctOnto (seen ps : List (Point R)) : List (Point R) :=
  ps.foldl (fun seen p => if seen.contains p then seen else seen ++ [p]) seen

theorem distinct_eq (ps : List (Point R)) : distinct ps = distinctOnto [] ps := rfl

theorem distinctOnto_cons (seen ps : List (Point R)) (p : Point R) :
    distinctOnto seen (p :: ps) = distinctOnto (if seen.contains p then seen else seen ++ [p]) ps := rfl

theorem contains_iff_mem_keys (hkey : ToldApartBy P key) (hseen : ∀ q ∈ seen, P q) (hp : P p) :
    seen.contains p = true ↔ key p ∈ seen.map key := by
  rw [List.contains_eq_any_beq, List.any_eq_true, List.mem_map]
  exact exists_congr fun q => and_congr_right fun hq => (hkey p q hp (hseen q hq)).trans eq_comm

/-- What is kept has the keys of both lists, and no key twice if the first list has none twice. -/
theorem keys_distinctOnto (hkey : ToldApartBy P key) (hseen : ∀ q ∈ seen, P q) (hps : ∀ p ∈ ps, P p)
    (hnodup : (seen.map key).Nodup) : ((distinctOnto seen ps).map key).Nodup ∧
      ∀ k, k ∈ (distinctOnto seen ps).map key ↔ k ∈ seen.map key ∨ k ∈ ps.map key := by
  -- Along the second list, while the first one grows by each point that is new to it.
  induction ps generalizing seen with
  | nil => exact ⟨hnodup, fun k => by simp [distinctOnto]⟩
  | cons p ps ih =>
    obtain ⟨hp, hps⟩ := List.forall_mem_cons.mp hps
    have hmem := contains_iff_mem_keys hkey hseen hp
    rw [distinctOnto_cons]
    split_ifs with hc
    · obtain ⟨hkept, hkeys⟩ := ih hseen hps hnodup
      refine ⟨hkept, fun k => (hkeys k).trans ?_⟩
      have hknown := hmem.mp hc
      rw [List.map_cons, List.mem_cons]
      constructor
      · exact Or.imp_right Or.inr
      · rintro (h | rfl | h)
        · exact Or.inl h
        · exact Or.inl hknown
        · exact Or.inr h
    · have hnew : ((seen ++ [p]).map key).Nodup := by
        rw [List.map_append, List.map_singleton, List.nodup_append_comm, List.singleton_append, List.nodup_cons]
        exact ⟨fun h => hc (hmem.mpr h), hnodup⟩
      obtain ⟨hkept, hkeys⟩ := ih (List.forall_mem_append.mpr ⟨hseen, by simpa using hp⟩) hps hnew
      refine ⟨hkept, fun k => (hkeys k).trans ?_⟩
      simp [or_assoc, eq_comm]

theorem length_distinct [DecidableEq κ] (hkey : ToldApartBy P key) (hps : ∀ p ∈ ps, P p) :
    (distinct ps).length = (ps.map key).toFinset.card := by
  obtain ⟨hnodup, hkeys⟩ := keys_distinctOnto hkey (List.forall_mem_nil P) hps List.nodup_nil
  rw [distinct_eq, ← List.length_map key, ← List.toFinset_card_of_nodup hnodup]
  congr 1
  ext k
  simpa using hkeys k

end Keys

/-! ### Points on the globe -/

open Binary64
variable {p q : Point Float} {ps : List (Point Float)}

/-- The numbers that the longitude and the latitude stand for. -/
def numbers (p : Point Float) : Option ℚ × Option ℚ :=
  (value? p.lon, value? p.lat)

theorem exists_numbers (hp : p.isValid = true) : ∃ q r : ℚ, value? p.lat = some q ∧ value? p.lon = some r := by
  obtain ⟨q, r, hq, hr, -⟩ := isValid_iff_isOnGlobe.mp hp
  exact ⟨q, r, hq, hr⟩

theorem beq_iff_of_isValid (hp : p.isValid = true) (hq : q.isValid = true) :
    (p == q) = true ↔ p.numbers = q.numbers := by
  obtain ⟨lat, lon, hlat, hlon⟩ := exists_numbers hp
  obtain ⟨lat', lon', hlat', hlon'⟩ := exists_numbers hq
  rw [numbers, numbers, hlat, hlon, hlat', hlon', Prod.mk.injEq, Option.some_inj, Option.some_inj, and_comm,
    ← beq_iff_of_value? hlat hlat', ← beq_iff_of_value? hlon hlon', ← Bool.and_eq_true]
  rfl

theorem length_distinct_of_isValid (hps : ∀ p ∈ ps, p.isValid = true) :
    (distinct ps).length = (ps.map numbers).toFinset.card :=
  length_distinct (fun _ _ => beq_iff_of_isValid) hps

theorem three_le_length_distinct_iff (hps : ∀ p ∈ ps, p.isValid = true) : 3 ≤ (distinct ps).length ↔
    ∃ p ∈ ps, ∃ q ∈ ps, ∃ r ∈ ps, (p == q) = false ∧ (p == r) = false ∧ (q == r) = false := by
  have hdiffer : ∀ p ∈ ps, ∀ q ∈ ps, (p == q) = false ↔ p.numbers ≠ q.numbers := fun p hp q hq => by
    rw [ne_eq, ← beq_iff_of_isValid (hps p hp) (hps q hq), Bool.not_eq_true]
  rw [length_distinct_of_isValid hps, Nat.succ_le_iff, Finset.two_lt_card_iff]
  simp only [List.mem_toFinset, List.mem_map]
  constructor
  · rintro ⟨_, _, _, ⟨p, hp, rfl⟩, ⟨q, hq, rfl⟩, ⟨r, hr, rfl⟩, hpq, hpr, hqr⟩
    exact ⟨p, hp, q, hq, r, hr, (hdiffer p hp q hq).mpr hpq, (hdiffer p hp r hr).mpr hpr, (hdiffer q hq r hr).mpr hqr⟩
  · rintro ⟨p, hp, q, hq, r, hr, hpq, hpr, hqr⟩
    exact ⟨_, _, _, ⟨p, hp, rfl⟩, ⟨q, hq, rfl⟩, ⟨r, hr, rfl⟩, (hdiffer p hp q hq).mp hpq, (hdiffer p hp r hr).mp hpr,
      (hdiffer q hq r hr).mp hqr⟩

end AirspaceRaster.Point
