import AirspaceRaster.Raster.Folder

/-! What an operation changes in a folder: the entry of its name, and no other one. Whether it is refused, and
    what becomes of the entry, depends on nothing else of the folder than that entry. -/

namespace AirspaceRaster.Folder

variable {f g : Folder} {name other : String} {content : Array UInt8} {e : FolderEntry}
  {es : List (String × FolderEntry)}

theorem lookup_cons_eq (x : FolderEntry) :
    ((name, x) :: es).lookup other = if other = name then some x else es.lookup other := by
  rw [List.lookup_cons]
  split
  · rename_i h
    rw [if_pos (beq_iff_eq.mp h)]
  · rename_i h
    rw [if_neg (beq_eq_false_iff_ne.mp h)]

theorem lookup_setEntry :
    (setEntry name e es).lookup other = if other = name then some e else es.lookup other := by
  induction es with
  | nil => exact lookup_cons_eq e
  | cons x rest ih =>
    obtain ⟨n, x⟩ := x
    rw [setEntry]
    by_cases hn : n = name
    · rw [if_pos hn, lookup_cons_eq, lookup_cons_eq, hn]
      split <;> rfl
    · rw [if_neg hn, lookup_cons_eq, lookup_cons_eq, ih]
      by_cases h : other = n
      · rw [if_pos h, if_neg (h ▸ hn), if_pos h]
      · rw [if_neg h, if_neg h]

theorem lookup_filter_ne :
    (es.filter fun x => x.1 ≠ name).lookup other = if other = name then none else es.lookup other := by
  induction es with
  | nil => exact (ite_self none).symm
  | cons x rest ih =>
    obtain ⟨n, x⟩ := x
    by_cases hn : n = name
    · rw [List.filter_cons_of_neg (by simpa using hn), ih, lookup_cons_eq, hn]
      split <;> rfl
    · rw [List.filter_cons_of_pos (by simpa using hn), lookup_cons_eq, lookup_cons_eq, ih]
      by_cases h : other = n
      · rw [if_pos h, if_neg (h ▸ hn), if_pos h]
      · rw [if_neg h, if_neg h]

/-! ### Slots -/

/-- What a folder holds under a name, if it is there: an entry or nothing. -/
def slot (name : String) : Folder → Option (Option FolderEntry)
  | missing => none
  | present es => some (es.lookup name)

/-- Two folders hold the same under every name, whatever the order of their entries. -/
def Same (f g : Folder) : Prop :=
  ∀ name, f.slot name = g.slot name

theorem entry?_eq_join_slot (f : Folder) (name : String) : f.entry? name = (f.slot name).join := by
  cases f <;> rfl

theorem slot_writeFile (h : f.writeFile name content = .ok g) (other : String) :
    g.slot other = if other = name then some (some (.file content)) else f.slot other := by
  cases f with
  | missing => cases h
  | present es =>
    rw [writeFile] at h
    split at h
    · cases h
    · cases h
      rw [slot, lookup_setEntry, slot]
      split <;> rfl

theorem slot_removeFile (h : f.removeFile name = .ok g) (other : String) :
    g.slot other = if other = name then some none else f.slot other := by
  cases f with
  | missing => cases h
  | present es =>
    rw [removeFile] at h
    split at h
    · cases h
    · cases h
    · cases h
      rw [slot, entries, lookup_filter_ne, slot]
      split <;> rfl

/-! ### Entries -/

theorem entry?_writeFile (h : f.writeFile name content = .ok g) (other : String) :
    g.entry? other = if other = name then some (.file content) else f.entry? other := by
  rw [entry?_eq_join_slot, slot_writeFile h, entry?_eq_join_slot]
  split <;> rfl

theorem entry?_removeFile (h : f.removeFile name = .ok g) (other : String) :
    g.entry? other = if other = name then none else f.entry? other := by
  rw [entry?_eq_join_slot, slot_removeFile h, entry?_eq_join_slot]
  split <;> rfl

theorem hasEntry_eq_false : f.hasEntry name = false ↔ f.entry? name = none := by
  rw [hasEntry, Option.isSome_eq_false_iff, Option.isNone_iff_eq_none]

/-! ### Folders with the same slot -/

theorem hasEntry_congr (h : f.slot name = g.slot name) : f.hasEntry name = g.hasEntry name := by
  rw [hasEntry, hasEntry, entry?_eq_join_slot, entry?_eq_join_slot, h]

/-- Whether a file can be written depends on the slot of its name alone. -/
theorem writeFile_congr (h : f.slot name = g.slot name) (content : Array UInt8) :
    (f.writeFile name content).map (slot name) = (g.writeFile name content).map (slot name) := by
  cases f <;> cases g
  · rfl
  · cases h
  · cases h
  · rename_i es fs
    have hlookup : es.lookup name = fs.lookup name := Option.some.inj h
    rw [writeFile, writeFile, hlookup]
    split
    · rfl
    · simp only [Except.map, slot, lookup_setEntry, if_true]

theorem removeFile_congr (h : f.slot name = g.slot name) :
    (f.removeFile name).map (slot name) = (g.removeFile name).map (slot name) := by
  rw [removeFile, removeFile, entry?_eq_join_slot, entry?_eq_join_slot, h]
  split
  · rfl
  · rfl
  · simp only [Except.map, slot, lookup_filter_ne, if_true]

/-! ### Writing twice -/

theorem setEntry_setEntry (es : List (String × FolderEntry)) :
    setEntry name e (setEntry name e es) = setEntry name e es := by
  induction es with
  | nil => rw [setEntry, setEntry, if_pos rfl]
  | cons x rest ih =>
    obtain ⟨n, x⟩ := x
    rw [setEntry]
    by_cases hn : n = name
    · rw [if_pos hn, setEntry, if_pos hn]
    · rw [if_neg hn, setEntry, if_neg hn, ih]

/-- A file that is written again with the same content changes nothing. -/
theorem writeFile_writeFile (h : f.writeFile name content = .ok g) : g.writeFile name content = .ok g := by
  cases f with
  | missing => cases h
  | present es =>
    rw [writeFile] at h
    split at h
    · cases h
    · cases h
      rw [writeFile, lookup_setEntry, if_pos rfl, setEntry_setEntry]

/-! ### Where a file can be written -/

/-- The folder is there, and the name is free in it or stands for a file. -/
def HasPlaceFor (f : Folder) (name : String) : Prop :=
  f ≠ missing ∧ f.entry? name ≠ some .folder

instance (f : Folder) (name : String) : Decidable (f.HasPlaceFor name) :=
  inferInstanceAs (Decidable (_ ∧ _))

theorem exists_writeFile (h : f.HasPlaceFor name) (content : Array UInt8) : ∃ g, f.writeFile name content = .ok g := by
  cases f with
  | missing => exact absurd rfl h.1
  | present es =>
    rw [writeFile]
    split
    · rename_i hfolder
      exact absurd hfolder h.2
    · exact ⟨_, rfl⟩

theorem exists_removeFile (h : f.HasPlaceFor name) (hentry : f.hasEntry name = true) :
    ∃ g, f.removeFile name = .ok g := by
  rw [removeFile]
  split
  · rename_i hnone
    rw [hasEntry, hnone] at hentry
    cases hentry
  · rename_i hfolder
    exact absurd hfolder h.2
  · exact ⟨_, rfl⟩

end AirspaceRaster.Folder
