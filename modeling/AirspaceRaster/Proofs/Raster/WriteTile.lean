import AirspaceRaster.Proofs.Raster.Folder
import AirspaceRaster.Proofs.Raster.Grid
import AirspaceRaster.Raster.Writer

/-! What writing one tile can do. There are four outcomes, and each one says what became of the entry of the
    tile and where its content comes from. No other entry is touched. -/

namespace AirspaceRaster.TileWriter

variable {R : Type} {tile : Tile} {folder after : Folder} {buffer : Array UInt8} {e : TileFailure R}

/-! ### Failures handed on -/

section Except
variable {ε δ α β : Type} {x : Except ε α} {g : ε → δ} {f : α → β} {a : α} {d : δ} {c : ε}

theorem mapError_eq_ok_iff : x.mapError g = .ok a ↔ x = .ok a := by
  cases x with
  | error c => constructor <;> intro h <;> cases h
  | ok b => constructor <;> intro h <;> cases h <;> rfl

theorem mapError_eq_error_iff : x.mapError g = .error d ↔ ∃ c, x = .error c ∧ g c = d := by
  cases x with
  | error c =>
    constructor
    · intro h
      cases h
      exact ⟨c, rfl, rfl⟩
    · rintro ⟨_, h, rfl⟩
      cases h
      rfl
  | ok b =>
    constructor
    · intro h
      cases h
    · rintro ⟨_, h, -⟩
      cases h

theorem map_eq_error_iff : x.map f = .error c ↔ x = .error c := by
  cases x with
  | error c => constructor <;> intro h <;> cases h <;> rfl
  | ok b => constructor <;> intro h <;> cases h

theorem eq_ok_of_toOption (h : x.toOption = some a) : x = .ok a := by
  cases x with
  | error c => cases h
  | ok b =>
    cases h
    rfl

end Except

/-! ### The folder -/

theorem entry?_finishEmpty (h : finishEmpty (R := R) tile folder = .ok after) (name : String) :
    after.entry? name = if name = tile.fileName then none else folder.entry? name := by
  rw [finishEmpty] at h
  split at h
  · exact Folder.entry?_removeFile (mapError_eq_ok_iff.mp h) name
  · rename_i hnone
    cases h
    split
    · rename_i hname
      rw [hname]
      exact Folder.hasEntry_eq_false.mp (Bool.eq_false_iff.mpr hnone)
    · rfl

theorem finishEmpty_eq_error (h : finishEmpty tile folder = .error e) : ∃ reason, e = .folder reason := by
  rw [finishEmpty] at h
  split at h
  · obtain ⟨failure, -, rfl⟩ := mapError_eq_error_iff.mp h
    exact ⟨failure.reason, rfl⟩
  · cases h

theorem entry?_persist (h : persist (R := R) tile buffer folder = .ok after) (name : String) :
    after.entry? name = if name = tile.fileName then some (.file buffer) else folder.entry? name :=
  Folder.entry?_writeFile (mapError_eq_ok_iff.mp h) name

theorem persist_eq_error (h : persist tile buffer folder = .error e) : ∃ reason, e = .folder reason := by
  obtain ⟨failure, -, rfl⟩ := mapError_eq_error_iff.mp h
  exact ⟨failure.reason, rfl⟩

/-! ### The raster -/

variable [Scalar R] {table : AirspaceTable R} {w : TileWriter table} {interrupts : Interrupts}
  {x : BudgetExceeded R}

theorem computeUnlessEmpty_eq (w : TileWriter table) (interrupts : Interrupts) (tile : Tile) :
    w.computeUnlessEmpty interrupts tile =
      match w.sampleIsEmpty interrupts tile with
      | .error e => .error e
      | .ok true => .ok none
      | .ok false =>
        match w.compute (fun row => interrupts (w.grid.sampleResolution + row)) tile with
        | .error e => .error e
        | .ok buffer => .ok (if Raster.isBlank buffer then none else some buffer) := by
  rw [computeUnlessEmpty]
  match w.sampleIsEmpty interrupts tile with
  | .error e => rfl
  | .ok true => rfl
  | .ok false =>
    cases w.compute (fun row => interrupts (w.grid.sampleResolution + row)) tile <;> rfl

/-- A raster that is worked out is the whole one, and it is not blank. -/
theorem computeUnlessEmpty_eq_some (h : w.computeUnlessEmpty interrupts tile = .ok (some buffer)) :
    w.compute .never tile = .ok buffer ∧ Raster.isBlank buffer = false := by
  rw [computeUnlessEmpty_eq] at h
  split at h
  · cases h
  · cases h
  · split at h
    · cases h
    · rename_i hcompute
      split at h
      · cases h
      · rename_i hblank
        cases h
        exact ⟨Raster.sweep_never hcompute, Bool.eq_false_iff.mpr hblank⟩

/-- A raster is left out because the sample is blank or because it is blank itself. -/
theorem computeUnlessEmpty_eq_none (h : w.computeUnlessEmpty interrupts tile = .ok none) :
    w.sampleIsEmpty interrupts tile = .ok true ∨
      ∃ buffer, w.compute .never tile = .ok buffer ∧ Raster.isBlank buffer = true := by
  rw [computeUnlessEmpty_eq] at h
  split at h
  · cases h
  · rename_i hsample
    exact Or.inl hsample
  · split at h
    · cases h
    · rename_i buffer hcompute
      split at h
      · rename_i hblank
        exact Or.inr ⟨buffer, Raster.sweep_never hcompute, hblank⟩
      · cases h

/-- The budget that is reported as exceeded is exceeded at a grid point of the sample or of the raster. -/
theorem computeUnlessEmpty_eq_budget (h : w.computeUnlessEmpty interrupts tile = .error (.encoding (.budget x))) :
    ∃ n, (n = w.grid.sampleResolution ∨ n = w.grid.resolution) ∧ ∃ i < n, ∃ y < n,
      PointRecord.levels w.config (tile.gridPoint i y n) (w.near (tile.gridPoint i y n)) = .error x := by
  rw [computeUnlessEmpty_eq] at h
  split at h
  · rename_i hsample
    cases h
    rw [sampleIsEmpty] at hsample
    split at hsample
    · cases hsample
    · exact ⟨_, Or.inl rfl, Raster.exists_of_sweep_eq_error (map_eq_error_iff.mp hsample)⟩
  · cases h
  · split at h
    · rename_i hcompute
      cases h
      exact ⟨_, Or.inr rfl, Raster.exists_of_sweep_eq_error hcompute⟩
    · cases h

/-! ### One tile -/

/-- What writing a tile can do: it fails in the raster or in the folder, it leaves a file alone, it leaves the
    tile without an entry, or it saves the raster. -/
theorem writeTile_cases (w : TileWriter table) (interrupts : Interrupts) (tile : Tile) (folder : Folder) :
    (∃ e, (w.computeUnlessEmpty interrupts tile = .error e ∨ ∃ reason, e = .folder reason) ∧
      w.writeTile interrupts tile folder = (.error e, folder)) ∨
    (w.isSkipped tile folder = true ∧
      w.writeTile interrupts tile folder = (.ok (.skipped tile.fileName), folder)) ∨
    (∃ after, w.computeUnlessEmpty interrupts tile = .ok none ∧ finishEmpty (R := R) tile folder = .ok after ∧
      w.writeTile interrupts tile folder = (.ok .empty, after)) ∨
    (∃ buffer after, w.computeUnlessEmpty interrupts tile = .ok (some buffer) ∧
      persist (R := R) tile buffer folder = .ok after ∧
      w.writeTile interrupts tile folder = (.ok (.saved tile.fileName), after)) := by
  rw [writeTile]
  cases hskip : w.isSkipped tile folder with
  | true => exact Or.inr (Or.inl ⟨rfl, rfl⟩)
  | false =>
    match hraster : w.computeUnlessEmpty interrupts tile with
    | .error e => exact Or.inl ⟨e, Or.inl rfl, rfl⟩
    | .ok none =>
      cases hafter : finishEmpty (R := R) tile folder with
      | error e => exact Or.inl ⟨e, Or.inr (finishEmpty_eq_error hafter), rfl⟩
      | ok after => exact Or.inr (Or.inr (Or.inl ⟨after, rfl, rfl, rfl⟩))
    | .ok (some buffer) =>
      cases hafter : persist (R := R) tile buffer folder with
      | error e =>
        refine Or.inl ⟨e, Or.inr (persist_eq_error hafter), ?_⟩
        simp only [hafter, Bool.false_eq_true, if_false]
      | ok after =>
        refine Or.inr (Or.inr (Or.inr ⟨buffer, after, rfl, hafter, ?_⟩))
        simp only [hafter, Bool.false_eq_true, if_false]

end AirspaceRaster.TileWriter
