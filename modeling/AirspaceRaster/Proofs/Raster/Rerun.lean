import AirspaceRaster.Proofs.Raster.Sampling

/-! Writing a tile again. A call that comes to an outcome leaves the folder in a state that the same call does not
    change any more. If tiles with a file are computed again, what was in the folder before makes no difference
    to the tile either. -/

namespace AirspaceRaster.TileWriter

variable {R : Type} {tile : Tile} {folder after other : Folder} {buffer : Array UInt8}

/-! ### The folder -/

theorem finishEmpty_of_finishEmpty (h : finishEmpty (R := R) tile folder = .ok after) :
    finishEmpty (R := R) tile after = .ok after := by
  have hnone : after.hasEntry tile.fileName = false := by
    rw [Folder.hasEntry_eq_false, entry?_finishEmpty h, if_pos rfl]
  rw [finishEmpty, hnone, if_neg Bool.false_ne_true]

theorem persist_of_persist (h : persist (R := R) tile buffer folder = .ok after) :
    persist (R := R) tile buffer after = .ok after :=
  mapError_eq_ok_iff.mpr (Folder.writeFile_writeFile (mapError_eq_ok_iff.mp h))

theorem exists_persist (h : folder.HasPlaceFor tile.fileName) (buffer : Array UInt8) :
    ∃ after, persist (R := R) tile buffer folder = .ok after := by
  obtain ⟨after, hwrite⟩ := Folder.exists_writeFile h buffer
  exact ⟨after, mapError_eq_ok_iff.mpr hwrite⟩

theorem exists_finishEmpty (h : folder.HasPlaceFor tile.fileName) :
    ∃ after, finishEmpty (R := R) tile folder = .ok after := by
  cases hentry : folder.hasEntry tile.fileName with
  | false => exact ⟨folder, by rw [finishEmpty, hentry, if_neg Bool.false_ne_true]⟩
  | true =>
    obtain ⟨after, hremove⟩ := Folder.exists_removeFile h hentry
    exact ⟨after, by rw [finishEmpty, hentry, if_pos rfl, hremove]; rfl⟩

/-! ### The call -/

variable {table : AirspaceTable R} {w : TileWriter table}

theorem isSkipped_of_force (hforce : w.grid.force = true) (tile : Tile) (folder : Folder) :
    w.isSkipped tile folder = false := by
  rw [isSkipped, hforce, Bool.not_true, Bool.and_false]

theorem isSkipped_of_not_force (hforce : w.grid.force = false) (tile : Tile) (folder : Folder) :
    w.isSkipped tile folder = folder.hasEntry tile.fileName := by
  rw [isSkipped, hforce, Bool.not_false, Bool.and_true]

variable [Scalar R]

theorem writeTile_of_empty {interrupts : Interrupts} (hskip : w.isSkipped tile folder = false)
    (hraster : w.computeUnlessEmpty interrupts tile = .ok none) (hafter : finishEmpty (R := R) tile folder = .ok after) :
    w.writeTile interrupts tile folder = (.ok .empty, after) := by
  rw [writeTile_of_blank hskip hraster, leaveBlank, hafter]

theorem writeTile_of_raster {interrupts : Interrupts} (hskip : w.isSkipped tile folder = false)
    (hraster : w.computeUnlessEmpty interrupts tile = .ok (some buffer))
    (hafter : persist (R := R) tile buffer folder = .ok after) :
    w.writeTile interrupts tile folder = (.ok (.saved tile.fileName), after) := by
  rw [writeTile, hskip, if_neg Bool.false_ne_true, hraster]
  simp only [hafter]

/-- The same call again leaves the folder as it is. -/
theorem writeTile_again {interrupts : Interrupts} {outcome : TileOutcome}
    (h : w.writeTile interrupts tile folder = (.ok outcome, after)) :
    w.writeTile interrupts tile after =
      (.ok (if w.grid.force = false ∧ outcome ≠ .empty then .skipped tile.fileName else outcome), after) := by
  rcases writeTile_cases w interrupts tile folder with
    ⟨e, -, hwrite⟩ | ⟨hskip, hwrite⟩ | ⟨_, hraster, hempty, hwrite⟩ | ⟨buffer, _, hraster, hpersist, hwrite⟩ <;>
    rw [hwrite] at h <;> cases h
  · have hforce : w.grid.force = false := by simpa using (Bool.and_eq_true_iff.mp hskip).2
    rw [if_pos ⟨hforce, fun h => by cases h⟩]
    exact hwrite
  · have hskip : w.isSkipped tile after = false := by
      have hnone : after.hasEntry tile.fileName = false := by
        rw [Folder.hasEntry_eq_false, entry?_finishEmpty hempty, if_pos rfl]
      rw [isSkipped, hnone, Bool.false_and]
    rw [if_neg fun hand => hand.2 rfl]
    exact writeTile_of_empty hskip hraster (finishEmpty_of_finishEmpty hempty)
  · cases hforce : w.grid.force with
    | false =>
      have hentry : after.hasEntry tile.fileName = true := by
        rw [Folder.hasEntry, entry?_persist hpersist, if_pos rfl, Option.isSome_some]
      rw [if_pos ⟨rfl, fun h => by cases h⟩]
      exact writeTile_of_isSkipped (by rw [isSkipped_of_not_force hforce, hentry])
    | true =>
      rw [if_neg fun h => Bool.noConfusion h.1]
      exact writeTile_of_raster (isSkipped_of_force hforce tile after) hraster (persist_of_persist hpersist)

/-- Where tiles with a file are computed again, a call does in a folder that has a place for the tile what its
    raster says. -/
theorem writeTile_of_force (interrupts : Interrupts) (hforce : w.grid.force = true)
    (hplace : folder.HasPlaceFor tile.fileName) :
    (∃ e, w.computeUnlessEmpty interrupts tile = .error e ∧ w.writeTile interrupts tile folder = (.error e, folder)) ∨
    (w.computeUnlessEmpty interrupts tile = .ok none ∧ (w.writeTile interrupts tile folder).1 = .ok .empty ∧
      Folder.entry? (w.writeTile interrupts tile folder).2 tile.fileName = none) ∨
    ∃ buffer, w.computeUnlessEmpty interrupts tile = .ok (some buffer) ∧
      (w.writeTile interrupts tile folder).1 = .ok (.saved tile.fileName) ∧
      Folder.entry? (w.writeTile interrupts tile folder).2 tile.fileName = some (.file buffer) := by
  have hskip := isSkipped_of_force hforce tile folder
  match hraster : w.computeUnlessEmpty interrupts tile with
  | .error e => exact Or.inl ⟨e, rfl, writeTile_of_error hskip hraster⟩
  | .ok none =>
    obtain ⟨after, hafter⟩ := exists_finishEmpty (R := R) hplace
    rw [writeTile_of_empty hskip hraster hafter]
    exact Or.inr (Or.inl ⟨rfl, rfl, by rw [entry?_finishEmpty hafter, if_pos rfl]⟩)
  | .ok (some buffer) =>
    obtain ⟨after, hafter⟩ := exists_persist (R := R) hplace buffer
    rw [writeTile_of_raster hskip hraster hafter]
    exact Or.inr (Or.inr ⟨buffer, rfl, rfl, by rw [entry?_persist hafter, if_pos rfl]⟩)

/-- A second call behind one that came to an outcome comes to one as well and leaves the folder exactly as the
    first one did. It skips a tile with a file unless that is computed again, else its outcome is the first one's.
    Where tiles with a file are computed again, the result does not depend on whether the tile has a file and on
    what is in it, and neither does the entry of the tile that an outcome goes with. A failure leaves each folder
    as it was. -/
theorem writeTile_rerun (w : TileWriter table) (tile : Tile) (folder : Folder) :
    (∀ outcome after, w.writeTile .never tile folder = (.ok outcome, after) →
      w.writeTile .never tile after =
        (.ok (if w.grid.force = false ∧ outcome ≠ .empty then .skipped tile.fileName else outcome), after)) ∧
    (w.grid.force = true → ∀ other : Folder,
      folder.HasPlaceFor tile.fileName → other.HasPlaceFor tile.fileName →
      (w.writeTile .never tile folder).1 = (w.writeTile .never tile other).1 ∧
      ((∃ outcome, (w.writeTile .never tile folder).1 = .ok outcome) →
        Folder.entry? (w.writeTile .never tile folder).2 tile.fileName =
          Folder.entry? (w.writeTile .never tile other).2 tile.fileName) ∧
      ((∃ e, (w.writeTile .never tile folder).1 = .error e) →
        (w.writeTile .never tile folder).2 = folder ∧ (w.writeTile .never tile other).2 = other)) := by
  refine ⟨fun outcome after h => writeTile_again h, fun hforce other hfolder hother => ?_⟩
  rcases writeTile_of_force .never hforce hfolder with
    ⟨e, hraster, hwrite⟩ | ⟨hraster, hresult, hentry⟩ | ⟨buffer, hraster, hresult, hentry⟩
  · have hagain := writeTile_of_error (isSkipped_of_force hforce tile other) hraster
    rw [hwrite, hagain]
    exact ⟨rfl, nofun, fun _ => ⟨rfl, rfl⟩⟩
  · obtain ⟨_, h, -⟩ | ⟨-, hresult', hentry'⟩ | ⟨_, h, -⟩ := writeTile_of_force .never hforce hother
    · cases hraster.symm.trans h
    · rw [hresult, hresult', hentry, hentry']
      exact ⟨rfl, fun _ => rfl, nofun⟩
    · cases hraster.symm.trans h
  · obtain ⟨_, h, -⟩ | ⟨h, -⟩ | ⟨_, h, hresult', hentry'⟩ := writeTile_of_force .never hforce hother
    · cases hraster.symm.trans h
    · cases hraster.symm.trans h
    · cases hraster.symm.trans h
      rw [hresult, hresult', hentry, hentry']
      exact ⟨rfl, fun _ => rfl, nofun⟩

/-- Two levels from the sea to 1000 feet, in the northern row, and a row without any. -/
def northernRow : Array UInt8 :=
  #[0, 4, 158, 0, 0, 4, 158, 0, 0, 0, 0, 0, 0, 0, 0, 0]

/-- Without a sample the tile with the airspace in the north is saved over an older file and saved again, with the
    same bytes as in an empty folder. -/
theorem writeTile_rerun_seenInNorth :
    seenInNorth.unsampled.writeTile .never ⟨48, 9⟩ (seenInNorth.unsampled.writeTile .never ⟨48, 9⟩ oldFile).2 =
      (.ok (.saved "N48E009.air"), (seenInNorth.unsampled.writeTile .never ⟨48, 9⟩ oldFile).2) ∧
    Folder.entry? (seenInNorth.unsampled.writeTile .never ⟨48, 9⟩ oldFile).2 "N48E009.air" =
      some (.file northernRow) ∧
    Folder.entry? (seenInNorth.unsampled.writeTile .never ⟨48, 9⟩ (.present [])).2 "N48E009.air" =
      some (.file northernRow) := by
  have hsaved : (seenInNorth.unsampled.writeTile .never ⟨48, 9⟩ oldFile).1 = .ok (.saved "N48E009.air") :=
    eq_ok_of_toOption (by decide +kernel)
  have hentry : Folder.entry? (seenInNorth.unsampled.writeTile .never ⟨48, 9⟩ oldFile).2 "N48E009.air" =
      some (.file northernRow) := by decide +kernel
  obtain ⟨hagain, hforce⟩ := writeTile_rerun seenInNorth.unsampled ⟨48, 9⟩ oldFile
  obtain ⟨-, hsame, -⟩ := hforce rfl (.present []) (by decide +kernel) (by decide +kernel)
  exact ⟨hagain _ _ (Prod.ext hsaved rfl), hentry, (hsame ⟨_, hsaved⟩).symm.trans hentry⟩

/-- Two airspaces around the only grid point, which are too many for the single level. -/
def seenTwice : TileWriter (.ofBands [(0, 1000), (1000, 2000)] : AirspaceTable Float) :=
  byLatitude (fun _ => List.finRange 2) 1 0 true

/-- A tile that exceeds the budget keeps the file that it has, although tiles with a file are computed again, and gets
    none in an empty folder. -/
theorem writeTile_seenTwice : seenTwice.grid.force = true ∧ Tile.fileName ⟨48, 9⟩ = "N48E009.air" ∧
    (oldFile.HasPlaceFor "N48E009.air" ∧ exceededAt? (seenTwice.writeTile .never ⟨48, 9⟩ oldFile).1 = some 48 ∧
      Folder.entry? (seenTwice.writeTile .never ⟨48, 9⟩ oldFile).2 "N48E009.air" = some (.file #[8, 8, 8, 8])) ∧
    (Folder.HasPlaceFor (.present []) "N48E009.air" ∧
      exceededAt? (seenTwice.writeTile .never ⟨48, 9⟩ (.present [])).1 = some 48 ∧
      Folder.entry? (seenTwice.writeTile .never ⟨48, 9⟩ (.present [])).2 "N48E009.air" = none) := by
  decide +kernel

end AirspaceRaster.TileWriter
