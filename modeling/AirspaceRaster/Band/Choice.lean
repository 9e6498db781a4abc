import AirspaceRaster.Airspace.Vector

/-! Choosing among vectors. Of several that are equally good the first one is taken, so the order of
    the vectors is part of every result. -/

namespace AirspaceRaster

/-- The element that is left when each one in turn challenges the best one so far; the best one stays
    if `stays` says so. -/
def winner {α : Type} (stays : α → α → Bool) : List α → Option α
  | [] => none
  | a :: rest => some (rest.foldl (fun best b => if stays best b then best else b) a)

theorem foldl_mem {α : Type} (stays : α → α → Bool) (a : α) (l : List α) :
    l.foldl (fun best b => if stays best b then best else b) a ∈ a :: l := by
  induction l generalizing a with
  | nil => exact List.mem_singleton.mpr rfl
  | cons b l ih =>
    simp only [List.foldl_cons]
    split
    · rcases List.mem_cons.mp (ih a) with h | h
      · rw [h]; exact List.mem_cons_self
      · exact List.mem_cons_of_mem _ (List.mem_cons_of_mem _ h)
    · exact List.mem_cons_of_mem _ (ih b)

theorem mem_of_winner {α : Type} {stays : α → α → Bool} {l : List α} {a : α}
    (h : winner stays l = some a) : a ∈ l := by
  cases l with
  | nil => simp [winner] at h
  | cons b l =>
    simp only [winner, Option.some.injEq] at h
    exact h ▸ foldl_mem stays b l

theorem winner_eq_none {α : Type} {stays : α → α → Bool} {l : List α} :
    winner stays l = none ↔ l = [] := by
  cases l <;> simp [winner]

namespace AirspaceVector
variable {R : Type} [Scalar R] {table : AirspaceTable R}

/-- The first of the vectors with the smallest distance. -/
def nearest? (vs : List (AirspaceVector table)) : Option (AirspaceVector table) :=
  winner (fun best v => best.distance ≤ v.distance) vs

/-- The first of the vectors with the largest distance. -/
def farthest? (vs : List (AirspaceVector table)) : Option (AirspaceVector table) :=
  winner (fun best v => v.distance ≤ best.distance) vs

def covering (vs : List (AirspaceVector table)) (h : Altitude) : List (AirspaceVector table) :=
  vs.filter (·.covers h)

/-- The vector that stands for an altitude: the nearest covering one that has the point inside, or the
    nearest covering one at all if none has. -/
def chosenAt? (vs : List (AirspaceVector table)) (h : Altitude) : Option (AirspaceVector table) :=
  nearest? ((covering vs h).filter (·.inside)) <|> nearest? (covering vs h)

end AirspaceVector

end AirspaceRaster
