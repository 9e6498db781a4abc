import AirspaceRaster.Number.Binary64
import AirspaceRaster.Proofs.Raster.Budget
import AirspaceRaster.Proofs.Raster.WriteTile

/-! Writing a tile with a sample and without. The sample has grid points of its own, so it may be blank
    where the raster is not, and it may fail where the raster does not. Otherwise it makes no difference. -/

namespace AirspaceRaster.TileWriter

variable {R : Type} [Scalar R] {table : AirspaceTable R} {w : TileWriter table} {tile : Tile} {folder : Folder}

def unsampled (w : TileWriter table) : TileWriter table :=
  { w with grid := { w.grid with sampleResolution := 0 } }

/-- What becomes of a tile that is taken to be blank. -/
def leaveBlank (tile : Tile) (folder : Folder) : Except (TileFailure R) TileOutcome × Folder :=
  match finishEmpty tile folder with
  | .error e => (.error e, folder)
  | .ok after => (.ok .empty, after)

theorem writeTile_of_isSkipped {interrupts : Interrupts} (h : w.isSkipped tile folder = true) :
    w.writeTile interrupts tile folder = (.ok (.skipped tile.fileName), folder) := by
  rw [writeTile, if_pos h]

theorem writeTile_of_blank {interrupts : Interrupts} (hskip : w.isSkipped tile folder = false)
    (h : w.computeUnlessEmpty interrupts tile = .ok none) :
    w.writeTile interrupts tile folder = leaveBlank tile folder := by
  rw [writeTile, hskip, if_neg Bool.false_ne_true, h]
  rfl

theorem writeTile_of_error {interrupts : Interrupts} {e : TileFailure R} (hskip : w.isSkipped tile folder = false)
    (h : w.computeUnlessEmpty interrupts tile = .error e) :
    w.writeTile interrupts tile folder = (.error e, folder) := by
  rw [writeTile, hskip, if_neg Bool.false_ne_true, h]

theorem computeUnlessEmpty_of_blank_sample {interrupts : Interrupts}
    (h : w.sampleIsEmpty interrupts tile = .ok true) : w.computeUnlessEmpty interrupts tile = .ok none := by
  rw [computeUnlessEmpty_eq, h]

theorem computeUnlessEmpty_of_sample_error {interrupts : Interrupts} {e : TileFailure R}
    (h : w.sampleIsEmpty interrupts tile = .error e) : w.computeUnlessEmpty interrupts tile = .error e := by
  rw [computeUnlessEmpty_eq, h]

theorem computeUnlessEmpty_unsampled (h : w.sampleIsEmpty .never tile = .ok false) :
    w.computeUnlessEmpty .never tile = w.unsampled.computeUnlessEmpty .never tile := by
  rw [computeUnlessEmpty_eq, computeUnlessEmpty_eq, h]
  rfl

theorem computeUnlessEmpty_unsampled_eq_none {buffer : Array UInt8} (h : w.compute .never tile = .ok buffer)
    (hblank : Raster.isBlank buffer = true) : w.unsampled.computeUnlessEmpty .never tile = .ok none := by
  have hsample : w.unsampled.sampleIsEmpty .never tile = .ok false := if_pos rfl
  have hcompute : w.unsampled.compute (fun row => Interrupts.never (w.unsampled.grid.sampleResolution + row)) tile =
      .ok buffer := h
  simp only [computeUnlessEmpty_eq, hsample, hcompute, hblank, if_true]

theorem blank_of_empty {interrupts : Interrupts}
    (h : (w.writeTile interrupts tile folder).1 = .ok .empty ∨
      ∃ name, folder.hasEntry name = true ∧ (w.writeTile interrupts tile folder).2.hasEntry name = false) :
    w.sampleIsEmpty interrupts tile = .ok true ∨
      ∃ buffer, w.compute .never tile = .ok buffer ∧ Raster.isBlank buffer = true := by
  have hkept : ∀ result, w.writeTile interrupts tile folder = (result, folder) → result = .ok .empty :=
    fun result hwrite => by
      rw [hwrite] at h
      obtain h | ⟨name, hbefore, hafter⟩ := h
      · exact h
      · rw [hbefore] at hafter
        cases hafter
  rcases writeTile_cases w interrupts tile folder with
    ⟨e, -, hwrite⟩ | ⟨-, hwrite⟩ | ⟨after, hraster, -, -⟩ | ⟨buffer, after, -, hpersist, hwrite⟩
  · cases hkept _ hwrite
  · cases hkept _ hwrite
  · exact computeUnlessEmpty_eq_none hraster
  · rw [hwrite] at h
    obtain h | ⟨name, hbefore, hafter⟩ := h
    · cases h
    · rw [Folder.hasEntry_eq_false, entry?_persist hpersist] at hafter
      split at hafter
      · cases hafter
      · rw [Folder.hasEntry, hafter] at hbefore
        cases hbefore

theorem exists_of_writeTile_budget {interrupts : Interrupts} {x : BudgetExceeded R}
    (h : (w.writeTile interrupts tile folder).1 = .error (.encoding (.budget x))) :
    ∃ n, (n = w.grid.sampleResolution ∨ n = w.grid.resolution) ∧ ∃ i < n, ∃ y < n,
      x = ⟨tile.gridPoint i y n, w.config.levels⟩ ∧
      PointRecord.levels w.config (tile.gridPoint i y n) (w.near (tile.gridPoint i y n)) = .error x := by
  rcases writeTile_cases w interrupts tile folder with
    ⟨e, hraster | ⟨reason, rfl⟩, hwrite⟩ | ⟨-, hwrite⟩ | ⟨_, -, -, hwrite⟩ | ⟨_, _, -, -, hwrite⟩ <;>
    rw [hwrite] at h <;> cases h
  obtain ⟨n, hn, i, hi, y, hy, hlevels⟩ := computeUnlessEmpty_eq_budget hraster
  exact ⟨n, hn, i, hi, y, hy, (PointRecord.levels_eq_error_iff_lt.mp hlevels).1, hlevels⟩

/-- Taking a sample changes nothing where the tile is skipped, where the sample is not blank, and where the
    raster is blank as well. Else the tile is taken to be blank or the failure of the sample is reported. So
    whatever is reported is due to a grid point of the sample or of the raster. -/
theorem writeTile_sampled (w : TileWriter table) (tile : Tile) (folder : Folder) :
    (w.isSkipped tile folder = true ∨ w.sampleIsEmpty .never tile = .ok false ∨
      w.sampleIsEmpty .never tile = .ok true ∧
        (∃ buffer, w.compute .never tile = .ok buffer ∧ Raster.isBlank buffer = true) →
      w.writeTile .never tile folder = w.unsampled.writeTile .never tile folder) ∧
    (w.isSkipped tile folder = false → w.sampleIsEmpty .never tile = .ok true →
      w.writeTile .never tile folder = leaveBlank tile folder) ∧
    (w.isSkipped tile folder = false → ∀ e, w.sampleIsEmpty .never tile = .error e →
      w.writeTile .never tile folder = (.error e, folder)) ∧
    ((w.writeTile .never tile folder).1 = .ok .empty ∨
        (∃ name, folder.hasEntry name = true ∧ (w.writeTile .never tile folder).2.hasEntry name = false) →
      w.sampleIsEmpty .never tile = .ok true ∨
        ∃ buffer, w.compute .never tile = .ok buffer ∧ Raster.isBlank buffer = true) ∧
    ∀ x, (w.writeTile .never tile folder).1 = .error (.encoding (.budget x)) →
      ∃ n, (n = w.grid.sampleResolution ∨ n = w.grid.resolution) ∧ ∃ i < n, ∃ y < n,
        x = ⟨tile.gridPoint i y n, w.config.levels⟩ ∧
        PointRecord.levels w.config (tile.gridPoint i y n) (w.near (tile.gridPoint i y n)) = .error x := by
  refine ⟨?_, fun hskip h => ?_, fun hskip e h => ?_, blank_of_empty,
    fun x h => exists_of_writeTile_budget h⟩
  · rintro (hskip | hsample | ⟨hsample, buffer, hraster, hblank⟩)
    · rw [writeTile_of_isSkipped hskip]
      exact (writeTile_of_isSkipped (w := w.unsampled) hskip).symm
    · rw [writeTile, computeUnlessEmpty_unsampled hsample]
      rfl
    · rw [writeTile, computeUnlessEmpty_of_blank_sample hsample, ← computeUnlessEmpty_unsampled_eq_none hraster hblank]
      rfl
  · exact writeTile_of_blank hskip (computeUnlessEmpty_of_blank_sample h)
  · exact writeTile_of_error hskip (computeUnlessEmpty_of_sample_error h)

/-! ### Samples that matter -/

/-- A writer with a single level that sees airspaces one above the other by the latitude of a point. -/
def byLatitude (seen : Float → List (Fin 2)) (resolution sampleResolution : Nat) (force : Bool) :
    TileWriter (.ofBands [(0, 1000), (1000, 2000)] : AirspaceTable Float) where
  near p := (seen p.lat).map fun i => .measured i (1000 * Float.ofNat i) 90 true
  config := { LevelConfig.standard with levels := 1 }
  grid := { resolution, sampleResolution, force }

/-- One airspace around the northern row of the raster, which the sample does not reach. -/
def seenInNorth : TileWriter (.ofBands [(0, 1000), (1000, 2000)] : AirspaceTable Float) :=
  byLatitude (fun lat => if lat == 48.5 then [0] else []) 2 1 true

/-- Two airspaces around a row of the sample, between the rows of the raster. -/
def seenBetween : TileWriter (.ofBands [(0, 1000), (1000, 2000)] : AirspaceTable Float) :=
  byLatitude (fun lat => if 48.25 < lat && lat < 48.5 then [0, 1] else []) 2 3 false

def exceededAt? : Except (TileFailure Float) TileOutcome → Option Float
  | .error (.encoding (.budget x)) => some x.point.lat
  | _ => none

def oldFile : Folder :=
  .present [("N48E009.air", .file #[8, 8, 8, 8])]

theorem writeTile_sampled_seenInNorth :
    seenInNorth.writeTile .never ⟨48, 9⟩ oldFile = leaveBlank ⟨48, 9⟩ oldFile ∧
    seenBetween.writeTile .never ⟨48, 9⟩ oldFile = seenBetween.unsampled.writeTile .never ⟨48, 9⟩ oldFile :=
  ⟨(writeTile_sampled seenInNorth ⟨48, 9⟩ oldFile).2.1 (by decide +kernel)
      (eq_ok_of_toOption (by decide +kernel)),
    (writeTile_sampled seenBetween ⟨48, 9⟩ oldFile).1 (Or.inl (by decide +kernel))⟩

theorem writeTile_ne_unsampled :
    ((seenInNorth.writeTile .never ⟨48, 9⟩ oldFile).1.toOption = some .empty ∧
      Folder.entry? (seenInNorth.writeTile .never ⟨48, 9⟩ oldFile).2 "N48E009.air" = none ∧
      (seenInNorth.unsampled.writeTile .never ⟨48, 9⟩ oldFile).1.toOption = some (.saved "N48E009.air")) ∧
    (exceededAt? (seenBetween.writeTile .never ⟨48, 9⟩ (.present [])).1 = some (48 + 1 / 3) ∧
      (seenBetween.unsampled.writeTile .never ⟨48, 9⟩ (.present [])).1.toOption = some .empty) := by
  decide +kernel

end AirspaceRaster.TileWriter
