import AirspaceRaster.Raster.Grid

/-! What a sweep over the grid points of a tile can do. It fails only where some step fails, and if it
    succeeds it does not matter what could have interrupted it. -/

namespace AirspaceRaster.Raster

/-! ### Steps one after the other -/

section Through
variable {ε α : Type} {step step' : α → Nat → Except ε α} {count first : Nat} {a b : α} {e : ε}

theorem through_succ_eq_ok_iff : through step (count + 1) first a = .ok b ↔
    ∃ c, step a first = .ok c ∧ through step count (first + 1) c = .ok b := by
  rw [through]
  constructor
  · intro h
    split at h
    · cases h
    · rename_i c hc
      exact ⟨c, hc, h⟩
  · rintro ⟨c, hc, hrest⟩
    rw [hc]
    exact hrest

theorem exists_of_through_eq_error (h : through step count first a = .error e) :
    ∃ i c, first ≤ i ∧ i < first + count ∧ step c i = .error e := by
  induction count generalizing first a with
  | zero => cases h
  | succ count ih =>
    rw [through] at h
    split at h
    · rename_i hstep
      cases h
      exact ⟨first, a, by omega, by omega, hstep⟩
    · obtain ⟨i, c, hlow, hhigh, hstep⟩ := ih h
      exact ⟨i, c, by omega, by omega, hstep⟩

/-- Steps that succeed may be replaced with others that then give the same. -/
theorem through_mono (hstep : ∀ c i d, step c i = .ok d → step' c i = .ok d)
    (h : through step count first a = .ok b) : through step' count first a = .ok b := by
  induction count generalizing first a with
  | zero => exact h
  | succ count ih =>
    obtain ⟨c, hc, hrest⟩ := through_succ_eq_ok_iff.mp h
    exact through_succ_eq_ok_iff.mpr ⟨c, hstep a first c hc, ih hrest⟩

/-- Where every step either keeps an invariant or fails for a known cause, so do all of them together. -/
theorem through_cases {P : Nat → α → Prop} {F : ε → Prop}
    (hstep : ∀ i c, first ≤ i → i < first + count → P i c →
      (∃ d, step c i = .ok d ∧ P (i + 1) d) ∨ ∃ e, step c i = .error e ∧ F e)
    (ha : P first a) :
    (∃ b, through step count first a = .ok b ∧ P (first + count) b) ∨
      ∃ e, through step count first a = .error e ∧ F e := by
  induction count generalizing first a with
  | zero => exact Or.inl ⟨a, rfl, ha⟩
  | succ count ih =>
    rcases hstep first a (Nat.le_refl first) (by omega) ha with ⟨c, hc, hnext⟩ | ⟨e, he, hcause⟩
    · have hend : first + (count + 1) = first + 1 + count := by omega
      rw [through, hc, hend]
      exact ih (fun i d hlow hhigh => hstep i d (by omega) (by omega)) hnext
    · rw [through, he]
      exact Or.inr ⟨e, rfl, hcause⟩

/-- If the steps succeed each of them did, and what every step keeps holds at all of them. -/
theorem steps_of_through_eq_ok {P : α → Prop} (hkeep : ∀ c i d, P c → step c i = .ok d → P d) (ha : P a)
    (h : through step count first a = .ok b) :
    P b ∧ ∀ i, first ≤ i → i < first + count → ∃ c d, P c ∧ step c i = .ok d := by
  induction count generalizing first a with
  | zero =>
    cases h
    exact ⟨ha, fun i hlow hhigh => by omega⟩
  | succ count ih =>
    obtain ⟨c, hc, hrest⟩ := through_succ_eq_ok_iff.mp h
    obtain ⟨hb, hsteps⟩ := ih (hkeep a first c ha hc) hrest
    refine ⟨hb, fun i hlow hhigh => ?_⟩
    rcases Nat.eq_or_lt_of_le hlow with rfl | hlt
    · exact ⟨a, c, ha, hc⟩
    · exact hsteps i hlt (by omega)

end Through

/-! ### Sweeps -/

variable {R : Type} [Scalar R] {table : AirspaceTable R} {r : Raster table} {interrupts : Interrupts} {tile : Tile}
  {n y : Nat} {buffer written : Array UInt8} {e : TileFailure R} {x : BudgetExceeded R}

theorem writeRow_never (h : r.writeRow interrupts tile n buffer y = .ok written) :
    r.writeRow .never tile n buffer y = .ok written := by
  rw [writeRow] at h ⊢
  split at h
  · cases h
  · exact h

theorem sweep_never (h : r.sweep interrupts tile n = .ok buffer) : r.sweep .never tile n = .ok buffer := by
  rw [sweep] at h ⊢
  split at h
  · rename_i hsize
    rw [if_pos hsize]
    exact through_mono (fun _ _ _ => writeRow_never) h
  · cases h

theorem levels_of_writeCell_eq_error {i : Nat}
    (h : r.writeCell tile n y buffer i = .error (.encoding (.budget x))) :
    PointRecord.levels r.config (tile.gridPoint i y n) (r.near (tile.gridPoint i y n)) = .error x := by
  rw [writeCell, PointRecord.encodeAt] at h
  split at h
  · rename_i hlevels
    cases h
    exact hlevels
  · split at h <;> cases h

/-- The budget that a sweep reports as exceeded is exceeded at one of its grid points. -/
theorem exists_of_sweep_eq_error (h : r.sweep interrupts tile n = .error (.encoding (.budget x))) :
    ∃ i < n, ∃ y < n,
      PointRecord.levels r.config (tile.gridPoint i y n) (r.near (tile.gridPoint i y n)) = .error x := by
  rw [sweep] at h
  split at h
  · obtain ⟨y, _, -, hy, hrow⟩ := exists_of_through_eq_error h
    rw [writeRow] at hrow
    split at hrow
    · cases hrow
    · obtain ⟨i, _, -, hi, hcell⟩ := exists_of_through_eq_error hrow
      exact ⟨i, by omega, y, by omega, levels_of_writeCell_eq_error hcell⟩
  · cases h

end AirspaceRaster.Raster
