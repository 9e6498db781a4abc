/-! How far one worker gets with a batch in which an item may be fatal. The worker goes through the
    batch in two shares; a fatal item ends its own share only, and the share behind it, which is taken
    up again by then, may be divided twice. -/

namespace AirspaceRaster.Batch

variable {α : Type}

/-- The items up to the first fatal one, which is included, and whether there is one. -/
def upToFatal (fatal : α → Bool) : List α → List α × Bool
  | [] => ([], false)
  | a :: rest =>
    if fatal a then ([a], true)
    else
      let (more, failed) := upToFatal fatal rest
      (a :: more, failed)

/-- The items of a share that the worker gets to, and whether one of them is fatal. The share and its
    halves may still be divided some times. -/
def reachedWithin (fatal : α → Bool) (divisions : Nat) (items : List α) : List α × Bool :=
  if divisions = 0 ∨ items.length < 2 then upToFatal fatal items
  else
    let middle := items.length / 2
    let (first, failed) := reachedWithin fatal (divisions - 1) (items.take middle)
    let (second, failedLater) :=
      reachedWithin fatal (if failed then 2 else divisions - 1) (items.drop middle)
    (first ++ second, failed || failedLater)
termination_by items.length
decreasing_by
  · rw [List.length_take]; omega
  · rw [List.length_drop]; omega

/-- The items of a batch that the worker gets to. -/
def reached (fatal : α → Bool) (items : List α) : List α :=
  (reachedWithin fatal 1 items).1

end AirspaceRaster.Batch
