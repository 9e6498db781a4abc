import AirspaceRaster.Airspace.Vector

/-! Height bands: the altitudes at which a band starts, in ascending order, each with the vector that
    stands for the band. -/

namespace AirspaceRaster

/-- A map from the altitudes at which bands start to vectors. -/
structure HeightBands {R : Type} (table : AirspaceTable R) where
  /-- The bands from the lowest to the highest. -/
  toList : List (Altitude × AirspaceVector table)
  ascending : toList.Pairwise fun a b => a.1 < b.1

namespace HeightBands
variable {R : Type} {table : AirspaceTable R}

theorem ext_toList {b c : HeightBands table} (h : b.toList = c.toList) : b = c := by
  cases b; cases c; congr

def empty : HeightBands table := ⟨[], .nil⟩

def size (b : HeightBands table) : Nat := b.toList.length

def keys (b : HeightBands table) : List Altitude := b.toList.map Prod.fst

def vectors (b : HeightBands table) : List (AirspaceVector table) := b.toList.map Prod.snd

def restrict (b : HeightBands table) (l : List (Altitude × AirspaceVector table))
    (h : l.Sublist b.toList) : HeightBands table :=
  ⟨l, b.ascending.sublist h⟩

/-- The bands with a property of their vector. -/
def filter (b : HeightBands table) (p : AirspaceVector table → Bool) : HeightBands table :=
  b.restrict (b.toList.filter fun e => p e.2) List.filter_sublist

/-- A list of bands with one more, which replaces a band that starts at the same altitude. -/
def insertInto (h : Altitude) (v : AirspaceVector table) :
    List (Altitude × AirspaceVector table) → List (Altitude × AirspaceVector table)
  | [] => [(h, v)]
  | (k, w) :: rest =>
    if h < k then (h, v) :: (k, w) :: rest
    else if h = k then (h, v) :: rest
    else (k, w) :: insertInto h v rest

theorem mem_insertInto {h : Altitude} {v : AirspaceVector table} {e : Altitude × AirspaceVector table}
    {l : List (Altitude × AirspaceVector table)} (he : e ∈ insertInto h v l) :
    e = (h, v) ∨ e ∈ l := by
  induction l with
  | nil => exact .inl (List.mem_singleton.mp he)
  | cons x l ih =>
    simp only [insertInto] at he
    split at he
    · exact List.mem_cons.mp he
    · split at he
      · exact (List.mem_cons.mp he).imp id (List.mem_cons_of_mem _)
      · rcases List.mem_cons.mp he with rfl | he
        · exact .inr List.mem_cons_self
        · exact (ih he).imp id (List.mem_cons_of_mem _)

theorem pairwise_insertInto (h : Altitude) (v : AirspaceVector table)
    {l : List (Altitude × AirspaceVector table)} (hl : l.Pairwise fun a b => a.1 < b.1) :
    (insertInto h v l).Pairwise fun a b => a.1 < b.1 := by
  induction l with
  | nil => exact List.pairwise_singleton ..
  | cons x l ih =>
    obtain ⟨hx, hl⟩ := List.pairwise_cons.mp hl
    simp only [insertInto]
    split
    · rename_i hlt
      refine List.pairwise_cons.mpr ⟨fun e he => ?_, List.pairwise_cons.mpr ⟨hx, hl⟩⟩
      rcases List.mem_cons.mp he with rfl | he
      · exact hlt
      · exact Altitude.lt_trans hlt (hx e he)
    · split
      · rename_i heq
        subst heq
        exact List.pairwise_cons.mpr ⟨hx, hl⟩
      · rename_i hlt hne
        refine List.pairwise_cons.mpr ⟨fun e he => ?_, ih hl⟩
        rcases mem_insertInto he with rfl | he
        · exact Altitude.lt_of_not_lt_of_ne hlt hne
        · exact hx e he

def insert (b : HeightBands table) (h : Altitude) (v : AirspaceVector table) : HeightBands table :=
  ⟨insertInto h v b.toList, pairwise_insertInto h v b.ascending⟩

/-- The bands of a list in any order; of several that start at one altitude the last one stays. -/
def ofList (l : List (Altitude × AirspaceVector table)) : HeightBands table :=
  l.foldl (fun b e => b.insert e.1 e.2) empty

/-- The bands of a list of ascending altitudes at which there is a vector. -/
def ofAscending (hs : List Altitude) (h : hs.Pairwise (· < ·))
    (f : Altitude → Option (AirspaceVector table)) : HeightBands table where
  toList := hs.filterMap fun h => (f h).map fun v => (h, v)
  ascending := by
    rw [List.pairwise_filterMap]
    refine h.imp fun hlt a ha b hb => ?_
    simp only [Option.map_eq_some_iff] at ha hb
    obtain ⟨_, _, rfl⟩ := ha
    obtain ⟨_, _, rfl⟩ := hb
    exact hlt

end HeightBands

end AirspaceRaster
