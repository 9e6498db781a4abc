import AirspaceRaster.Number.Binary64
import AirspaceRaster.Proofs.Band.Choice
import AirspaceRaster.Proofs.Raster.WriteTile

/-! Sessions: tiles that are written to one folder one after the other, each with its own airspaces, settings
    and interruptions. What one call does to the folder holds of every call, and so every file that is there
    in the end is the whole raster of the last call that saved it. -/

namespace AirspaceRaster

/-- One tile to be written, with the writer for it and the interruptions that it meets. -/
structure WriteCall (R : Type) where
  table : AirspaceTable R
  writer : TileWriter table
  interrupts : Interrupts
  tile : Tile

namespace WriteCall
open TileWriter

variable {R : Type} [Scalar R] {c : WriteCall R} {calls : List (WriteCall R)} {folder : Folder} {name : String}
  {entry : FolderEntry}

def run (c : WriteCall R) (folder : Folder) : Except (TileFailure R) TileOutcome × Folder :=
  c.writer.writeTile c.interrupts c.tile folder

/-- The bytes of the whole raster that the call is for, if it can be worked out and is not blank. -/
def IsRaster (c : WriteCall R) (content : Array UInt8) : Prop :=
  c.writer.compute .never c.tile = .ok content ∧ Raster.isBlank content = false

/-- What a call does to a folder, by its result. No entry changes but the one of the tile, and that one changes only if
    the tile is empty, so that it has none, or saved, so that it is a file with the whole raster. -/
structure Effect (c : WriteCall R) (folder : Folder) (result : Except (TileFailure R) TileOutcome)
    (after : Folder) : Prop where
  others : ∀ name, name ≠ c.tile.fileName → after.entry? name = folder.entry? name
  failed : ∀ e, result = .error e → after = folder
  skipped : ∀ name, result = .ok (.skipped name) →
    name = c.tile.fileName ∧ folder.hasEntry name = true ∧ c.writer.grid.force = false ∧ after = folder
  empty : result = .ok .empty → after.entry? c.tile.fileName = none
  saved : ∀ name, result = .ok (.saved name) →
    name = c.tile.fileName ∧ ∃ content, c.IsRaster content ∧ after.entry? name = some (.file content)

theorem effect_run (c : WriteCall R) (folder : Folder) : c.Effect folder (c.run folder).1 (c.run folder).2 := by
  rw [run]
  rcases writeTile_cases c.writer c.interrupts c.tile folder with
    ⟨e, -, hwrite⟩ | ⟨hskip, hwrite⟩ | ⟨after, -, hempty, hwrite⟩ | ⟨buffer, after, hraster, hpersist, hwrite⟩
  · rw [hwrite]
    exact ⟨fun _ _ => rfl, fun _ _ => rfl, nofun, nofun, nofun⟩
  · rw [hwrite]
    obtain ⟨hentry, hforce⟩ := Bool.and_eq_true_iff.mp hskip
    refine ⟨fun _ _ => rfl, nofun, fun name h => ?_, nofun, nofun⟩
    cases h
    exact ⟨rfl, hentry, by simpa using hforce, rfl⟩
  · rw [hwrite]
    refine ⟨fun name hname => ?_, nofun, nofun, fun _ => ?_, nofun⟩
    · rw [entry?_finishEmpty hempty, if_neg hname]
    · rw [entry?_finishEmpty hempty, if_pos rfl]
  · rw [hwrite]
    refine ⟨fun name hname => ?_, nofun, nofun, nofun, fun name h => ?_⟩
    · rw [entry?_persist hpersist, if_neg hname]
    · cases h
      refine ⟨rfl, buffer, computeUnlessEmpty_eq_some hraster, ?_⟩
      rw [entry?_persist hpersist, if_pos rfl]

theorem entry?_run (h : Folder.entry? (c.run folder).2 name = some entry) :
    ((c.run folder).1 = .ok (.saved name) ∧ c.tile.fileName = name ∧
      ∃ content, c.IsRaster content ∧ entry = .file content) ∨
    ((c.run folder).1 ≠ .ok (.saved name) ∧ folder.entry? name = some entry) := by
  have heffect := effect_run c folder
  by_cases hname : name = c.tile.fileName
  · match hresult : (c.run folder).1 with
    | .error e =>
      rw [heffect.failed e hresult] at h
      exact Or.inr ⟨nofun, h⟩
    | .ok (.skipped file) =>
      rw [(heffect.skipped file hresult).2.2.2] at h
      exact Or.inr ⟨nofun, h⟩
    | .ok .empty =>
      rw [hname, heffect.empty hresult] at h
      cases h
    | .ok (.saved file) =>
      obtain ⟨hfile, content, hraster, hentry⟩ := heffect.saved file hresult
      obtain rfl : file = name := hfile.trans hname.symm
      rw [hentry] at h
      cases h
      exact Or.inl ⟨rfl, hfile.symm, content, hraster, rfl⟩
  · rw [heffect.others name hname] at h
    refine Or.inr ⟨fun hsaved => hname ?_, h⟩
    exact (heffect.saved name hsaved).1

/-! ### Many calls -/

def session (calls : List (WriteCall R)) (folder : Folder) : Folder :=
  calls.foldl (fun folder c => (c.run folder).2) folder

def NeverSaves (name : String) : List (WriteCall R) → Folder → Prop
  | [], _ => True
  | c :: rest, folder => (c.run folder).1 ≠ .ok (.saved name) ∧ NeverSaves name rest (c.run folder).2

/-- The last one of the calls that saves a file of this name is for a raster of this content. -/
def LastSaves (name : String) (content : Array UInt8) (calls : List (WriteCall R)) (folder : Folder) : Prop :=
  ∃ before c rest, calls = before ++ c :: rest ∧
    (c.run (session before folder)).1 = .ok (.saved name) ∧ c.tile.fileName = name ∧ c.IsRaster content ∧
    NeverSaves name rest (c.run (session before folder)).2

theorem LastSaves.cons {content : Array UInt8} (h : LastSaves name content calls (c.run folder).2) :
    LastSaves name content (c :: calls) folder := by
  obtain ⟨before, d, rest, rfl, h⟩ := h
  exact ⟨c :: before, d, rest, rfl, h⟩

theorem entry?_session (h : Folder.entry? (session calls folder) name = some entry) :
    (∃ content, LastSaves name content calls folder ∧ entry = .file content) ∨
    (NeverSaves name calls folder ∧ folder.entry? name = some entry) := by
  induction calls generalizing folder with
  | nil => exact Or.inr ⟨trivial, h⟩
  | cons c rest ih =>
    rcases ih h with ⟨content, hlast, hentry⟩ | ⟨hnever, hbefore⟩
    · exact Or.inl ⟨content, hlast.cons, hentry⟩
    · rcases entry?_run hbefore with ⟨hsaved, hname, content, hraster, hentry⟩ | ⟨hsaved, hentry⟩
      · exact Or.inl ⟨content, ⟨[], c, rest, rfl, hsaved, hname, hraster, hnever⟩, hentry⟩
      · exact Or.inr ⟨⟨hsaved, hnever⟩, hentry⟩

/-- Every call of a session keeps to its tile and leaves it as it was, with the whole raster or with no entry.
    So every entry that a session leaves in an empty folder is a file with the raster that was saved last under
    its name, which is the name of the tile. -/
theorem session_complete (calls : List (WriteCall R)) :
    (∀ folder before c rest, calls = before ++ c :: rest →
      c.Effect (session before folder) (c.run (session before folder)).1 (session (before ++ [c]) folder)) ∧
    ∀ name entry, Folder.entry? (session calls (.present [])) name = some entry →
      ∃ content, entry = .file content ∧ LastSaves name content calls (.present []) := by
  refine ⟨fun folder before c rest _ => ?_, fun name entry h => ?_⟩
  · have hafter : session (before ++ [c]) folder = (c.run (session before folder)).2 := by
      rw [session, List.foldl_append]
      rfl
    rw [hafter]
    exact effect_run c _
  · rcases entry?_session h with ⟨content, hlast, hentry⟩ | ⟨-, hentry⟩
    · exact ⟨content, hentry, hlast⟩
    · cases hentry

def onePoint (interrupts : Interrupts) (force : Bool) : WriteCall Float where
  table := .ofBands [(0, 1000)]
  writer := {
    near _ := [.measured ⟨0, by decide⟩ 640 90 true]
    config := { LevelConfig.standard with levels := 1 }
    grid := { resolution := 1, sampleResolution := 0, force } }
  interrupts
  tile := ⟨48, 9⟩

/-- A file that was saved stays whole if the tile is written once more and that is interrupted. -/
theorem session_complete_onePoint :
    ∃ content, FolderEntry.file #[0, 4, 158, 10] = .file content ∧
      LastSaves "N48E009.air" content [onePoint .never false, onePoint (fun _ => true) true] (.present []) :=
  (session_complete [onePoint .never false, onePoint (fun _ => true) true]).2 "N48E009.air" _ (by decide +kernel)

end WriteCall

end AirspaceRaster
