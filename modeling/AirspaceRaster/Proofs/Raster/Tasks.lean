import AirspaceRaster.Proofs.Raster.Sampling

/-! The task of a tile in steps. A step looks for the file of the tile, computes the raster, removes the file or
    moves the new one to its place, and between two steps other tasks may do theirs. What a task comes to from
    any stage on depends on the slot of its own file alone, and no other slot changes. -/

namespace AirspaceRaster

/-- How far the task of a tile is: nothing has been done, it is not skipped, it is blank, it is blank and has a file, its
    raster is computed and not blank, or there is a result. -/
inductive TileStage (R : Type) where
  | waiting
  | due
  | blank
  | stale
  | filled (buffer : Array UInt8)
  | finished (result : Except (TileFailure R) TileOutcome)

namespace TileStage
variable {R : Type}

def left : TileStage R → Nat
  | waiting => 4
  | due => 3
  | blank => 2
  | stale => 1
  | filled _ => 1
  | finished _ => 0

theorem left_le_four (stage : TileStage R) : stage.left ≤ 4 := by
  cases stage <;> simp [left]

theorem left_eq_zero_iff {stage : TileStage R} : stage.left = 0 ↔ ∃ result, stage = finished result := by
  cases stage <;> simp [left]

def result? : TileStage R → Option (Except (TileFailure R) TileOutcome)
  | finished result => some result
  | _ => none

end TileStage

namespace TileWriter

variable {R : Type} {tile : Tile} {folder other : Folder} {name : String}

/-! ### Operations on the folder -/

/-- What a task comes to by its last operation on the folder. -/
def conclude (outcome : TileOutcome) (folder : Folder) :
    Except (TileFailure R) Folder → Except (TileFailure R) TileOutcome × Folder
  | .error e => (.error e, folder)
  | .ok after => (.ok outcome, after)

def removeStale (tile : Tile) (folder : Folder) : Except (TileFailure R) Folder :=
  (folder.removeFile tile.fileName).mapError fun e => .folder e.reason

/-- Two results are the same, with the same slot of a name in the folders that come with them. -/
def SameAt {ρ : Type} (name : String) (p q : ρ × Folder) : Prop :=
  p.1 = q.1 ∧ p.2.slot name = q.2.slot name

theorem finishEmpty_eq (tile : Tile) (folder : Folder) : finishEmpty (R := R) tile folder =
    if folder.hasEntry tile.fileName then removeStale tile folder else .ok folder :=
  rfl

theorem map_mapError {ε δ α β : Type} (x : Except ε α) (f : α → β) (g : ε → δ) :
    (x.mapError g).map f = (x.map f).mapError g := by
  cases x <;> rfl

theorem removeStale_congr (h : folder.slot tile.fileName = other.slot tile.fileName) :
    (removeStale (R := R) tile folder).map (Folder.slot tile.fileName) =
      (removeStale (R := R) tile other).map (Folder.slot tile.fileName) := by
  rw [removeStale, map_mapError, Folder.removeFile_congr h, removeStale, map_mapError]

theorem finishEmpty_congr (h : folder.slot tile.fileName = other.slot tile.fileName) :
    (finishEmpty (R := R) tile folder).map (Folder.slot tile.fileName) =
      (finishEmpty (R := R) tile other).map (Folder.slot tile.fileName) := by
  rw [finishEmpty_eq, finishEmpty_eq, Folder.hasEntry_congr h]
  split
  · exact removeStale_congr h
  · exact congrArg Except.ok h

theorem persist_congr (h : folder.slot tile.fileName = other.slot tile.fileName) (buffer : Array UInt8) :
    (persist (R := R) tile buffer folder).map (Folder.slot tile.fileName) =
      (persist (R := R) tile buffer other).map (Folder.slot tile.fileName) := by
  rw [persist, map_mapError, Folder.writeFile_congr h, persist, map_mapError]

theorem slot_removeStale (hname : name ≠ tile.fileName) (after : Folder)
    (h : removeStale (R := R) tile folder = .ok after) : after.slot name = folder.slot name := by
  rw [Folder.slot_removeFile (mapError_eq_ok_iff.mp h), if_neg hname]

theorem slot_finishEmpty (hname : name ≠ tile.fileName) (after : Folder)
    (h : finishEmpty (R := R) tile folder = .ok after) : after.slot name = folder.slot name := by
  rw [finishEmpty_eq] at h
  split at h
  · exact slot_removeStale hname after h
  · cases h
    rfl

theorem slot_persist {buffer : Array UInt8} (hname : name ≠ tile.fileName) (after : Folder)
    (h : persist (R := R) tile buffer folder = .ok after) : after.slot name = folder.slot name := by
  rw [Folder.slot_writeFile (mapError_eq_ok_iff.mp h), if_neg hname]

theorem conclude_congr {x y : Except (TileFailure R) Folder} (outcome : TileOutcome)
    (hfolder : folder.slot name = other.slot name)
    (h : x.map (Folder.slot name) = y.map (Folder.slot name)) :
    SameAt name (conclude outcome folder x) (conclude outcome other y) := by
  cases x <;> cases y
  · cases h
    exact ⟨rfl, hfolder⟩
  · cases h
  · cases h
  · exact ⟨rfl, Except.ok.inj h⟩

theorem slot_conclude {x : Except (TileFailure R) Folder} (outcome : TileOutcome)
    (h : ∀ after, x = .ok after → after.slot name = folder.slot name) :
    (conclude outcome folder x).2.slot name = folder.slot name := by
  cases x with
  | error e => rfl
  | ok after => exact h after rfl

/-! ### Steps -/

variable [Scalar R] {table : AirspaceTable R} {w : TileWriter table}

/-- The next step of the task of a tile. -/
def step (w : TileWriter table) (tile : Tile) : TileStage R → Folder → TileStage R × Folder
  | .waiting, folder =>
    (if w.isSkipped tile folder then .finished (.ok (.skipped tile.fileName)) else .due, folder)
  | .due, folder =>
    match w.computeUnlessEmpty .never tile with
    | .error e => (.finished (.error e), folder)
    | .ok none => (.blank, folder)
    | .ok (some buffer) => (.filled buffer, folder)
  | .blank, folder =>
    (if folder.hasEntry tile.fileName then .stale else .finished (.ok .empty), folder)
  | .stale, folder =>
    Prod.map .finished id (conclude .empty folder (removeStale tile folder))
  | .filled buffer, folder =>
    Prod.map .finished id (conclude (.saved tile.fileName) folder (persist tile buffer folder))
  | .finished result, folder => (.finished result, folder)

/-- What the task of a tile comes to from a stage on if no other task does anything. -/
def rest (w : TileWriter table) (tile : Tile) :
    TileStage R → Folder → Except (TileFailure R) TileOutcome × Folder
  | .waiting, folder => w.writeTile .never tile folder
  | .due, folder =>
    match w.computeUnlessEmpty .never tile with
    | .error e => (.error e, folder)
    | .ok none => conclude .empty folder (finishEmpty tile folder)
    | .ok (some buffer) => conclude (.saved tile.fileName) folder (persist tile buffer folder)
  | .blank, folder => conclude .empty folder (finishEmpty tile folder)
  | .stale, folder => conclude .empty folder (removeStale tile folder)
  | .filled buffer, folder => conclude (.saved tile.fileName) folder (persist tile buffer folder)
  | .finished result, folder => (result, folder)

theorem writeTile_eq_rest (w : TileWriter table) (tile : Tile) (folder : Folder) :
    w.writeTile .never tile folder =
      if w.isSkipped tile folder then (.ok (.skipped tile.fileName), folder) else w.rest tile .due folder := by
  rw [writeTile, rest]
  split
  · rfl
  · cases w.computeUnlessEmpty .never tile with
    | error e => rfl
    | ok raster =>
      cases raster with
      | none => cases finishEmpty (R := R) tile folder <;> rfl
      | some buffer => cases hpersist : persist (R := R) tile buffer folder <;> simp only [hpersist] <;> rfl

/-- A step brings a task nearer to what it comes to. -/
theorem rest_step (w : TileWriter table) (tile : Tile) (stage : TileStage R) (folder : Folder) :
    w.rest tile (w.step tile stage folder).1 (w.step tile stage folder).2 = w.rest tile stage folder := by
  cases stage with
  | waiting =>
    rw [rest, writeTile_eq_rest, step]
    split <;> rfl
  | due =>
    rw [step, rest]
    split <;> rfl
  | blank =>
    rw [step, rest, finishEmpty_eq]
    split <;> rfl
  | stale => rfl
  | filled buffer => rfl
  | finished result => rfl

theorem left_step (w : TileWriter table) (tile : Tile) (stage : TileStage R) (folder : Folder) :
    (w.step tile stage folder).1.left ≤ stage.left - 1 := by
  cases stage with
  | waiting =>
    rw [step]
    split <;> simp [TileStage.left]
  | due =>
    rw [step]
    split <;> simp [TileStage.left]
  | blank =>
    rw [step]
    split <;> simp [TileStage.left]
  | stale => exact Nat.le_refl 0
  | filled buffer => exact Nat.le_refl 0
  | finished result => exact Nat.le_refl 0

theorem slot_step (hname : name ≠ tile.fileName) (stage : TileStage R) :
    (w.step tile stage folder).2.slot name = folder.slot name := by
  cases stage with
  | waiting => rfl
  | due =>
    rw [step]
    split <;> rfl
  | blank => rfl
  | stale => exact slot_conclude .empty (slot_removeStale hname)
  | filled buffer => exact slot_conclude (.saved tile.fileName) (slot_persist hname)
  | finished result => rfl

/-- What a task comes to depends on no slot but the one of its own file. -/
theorem rest_congr (w : TileWriter table) (stage : TileStage R)
    (h : folder.slot tile.fileName = other.slot tile.fileName) :
    SameAt tile.fileName (w.rest tile stage folder) (w.rest tile stage other) := by
  have hdue : SameAt tile.fileName (w.rest tile .due folder) (w.rest tile .due other) := by
    rw [rest, rest]
    split
    · exact ⟨rfl, h⟩
    · exact conclude_congr .empty h (finishEmpty_congr h)
    · exact conclude_congr (.saved tile.fileName) h (persist_congr h _)
  cases stage with
  | waiting =>
    rw [rest, rest, writeTile_eq_rest, writeTile_eq_rest, isSkipped, isSkipped, Folder.hasEntry_congr h]
    split
    · exact ⟨rfl, h⟩
    · exact hdue
  | due => exact hdue
  | blank => exact conclude_congr .empty h (finishEmpty_congr h)
  | stale => exact conclude_congr .empty h (removeStale_congr h)
  | filled buffer => exact conclude_congr (.saved tile.fileName) h (persist_congr h buffer)
  | finished result => exact ⟨rfl, h⟩

theorem slot_writeTile (hname : name ≠ tile.fileName) :
    (w.writeTile .never tile folder).2.slot name = folder.slot name := by
  rw [writeTile_eq_rest, rest]
  split
  · rfl
  · split
    · rfl
    · exact slot_conclude .empty (slot_finishEmpty hname)
    · exact slot_conclude (.saved tile.fileName) (slot_persist hname)

end TileWriter

end AirspaceRaster
