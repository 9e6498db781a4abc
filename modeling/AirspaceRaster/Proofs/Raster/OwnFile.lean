import AirspaceRaster.Proofs.Raster.Sampling
import AirspaceRaster.Proofs.Raster.Session
import AirspaceRaster.Proofs.Raster.TileName

/-! Every tile has a file of its own. Other tiles may be written in any number: they neither change the file of a
    tile nor decide whether it is left alone. -/

namespace AirspaceRaster.TileWriter

variable {R : Type} [Scalar R] {table : AirspaceTable R} {w : TileWriter table} {interrupts : Interrupts}
  {tile : Tile} {tiles : List Tile} {folder : Folder} {name : String}

theorem entry?_writeTile (hname : name ≠ tile.fileName) :
    Folder.entry? (w.writeTile interrupts tile folder).2 name = folder.entry? name :=
  (WriteCall.effect_run ⟨table, w, interrupts, tile⟩ folder).others name hname

theorem entry?_writeTiles {interrupts : Tile → Interrupts} (hnames : ∀ tile ∈ tiles, name ≠ tile.fileName) :
    Folder.entry? (w.writeTiles interrupts tiles folder).2 name = folder.entry? name := by
  induction tiles generalizing folder with
  | nil => rfl
  | cons tile rest ih =>
    obtain ⟨hname, hnames⟩ := List.forall_mem_cons.mp hnames
    rw [writeTiles]
    exact (ih hnames).trans (entry?_writeTile hname)

/-- Tiles with the same file are the same, whatever degrees they have. So a run over other tiles leaves the entry
    of a tile as it is, and the tile is left alone afterwards just if it would have been before. -/
theorem own_file (w : TileWriter table) (interrupts : Tile → Interrupts) (folder : Folder) :
    (∀ t u : Tile, t.fileName = u.fileName → t = u) ∧
    ∀ tiles, ∀ u : Tile, u ∉ tiles →
      Folder.entry? (w.writeTiles interrupts tiles folder).2 u.fileName = folder.entry? u.fileName ∧
      w.isSkipped u (w.writeTiles interrupts tiles folder).2 = w.isSkipped u folder := by
  refine ⟨fun t u => Tile.eq_of_fileName_eq, fun tiles u hu => ?_⟩
  have hentry : Folder.entry? (w.writeTiles interrupts tiles folder).2 u.fileName = folder.entry? u.fileName :=
    entry?_writeTiles fun tile htile hname => hu (Tile.eq_of_fileName_eq hname ▸ htile)
  exact ⟨hentry, by rw [isSkipped, Folder.hasEntry, hentry, isSkipped, Folder.hasEntry]⟩

/-- The files differ although the same digits follow one another in their names. -/
theorem own_file_sameDigits :
    let tiles : List Tile := [⟨4, 8009⟩, ⟨48, -9⟩, ⟨-48, 9⟩, ⟨480, 9⟩, ⟨-2147483648, 48009⟩]
    let after := (seenInNorth.unsampled.writeTiles (fun _ => .never) tiles oldFile).2
    (⟨-2147483648, 9⟩ : Tile).fileName ≠ (⟨-214748364, 8009⟩ : Tile).fileName ∧
    (⟨48, 9⟩ : Tile) ∉ tiles ∧ after.entry? "N48E009.air" = oldFile.entry? "N48E009.air" := by
  intro tiles after
  obtain ⟨hinjective, hothers⟩ := own_file seenInNorth.unsampled (fun _ => .never) oldFile
  have hnotMem : (⟨48, 9⟩ : Tile) ∉ tiles := by decide
  exact ⟨fun h => absurd (hinjective _ _ h) (by decide), hnotMem, (hothers tiles ⟨48, 9⟩ hnotMem).1⟩

end AirspaceRaster.TileWriter
