/-! Thinning a list: every element that is related to the one kept last is dropped. -/

namespace AirspaceRaster

variable {α : Type}

/-- The elements that are kept after `last`. -/
def thinAfter (related : α → α → Bool) (last : α) : List α → List α
  | [] => []
  | a :: rest =>
    if related last a then thinAfter related last rest else a :: thinAfter related a rest

/-- The elements that are kept; the first one always is. -/
def thin (related : α → α → Bool) : List α → List α
  | [] => []
  | a :: rest => a :: thinAfter related a rest

theorem thinAfter_sublist (related : α → α → Bool) (last : α) (l : List α) :
    (thinAfter related last l).Sublist l := by
  induction l generalizing last with
  | nil => exact .slnil
  | cons a l ih =>
    simp only [thinAfter]
    split
    · exact (ih last).cons a
    · exact (ih a).cons_cons a

theorem thin_sublist (related : α → α → Bool) (l : List α) : (thin related l).Sublist l := by
  cases l with
  | nil => exact .slnil
  | cons a l => exact (thinAfter_sublist related a l).cons_cons a

end AirspaceRaster
