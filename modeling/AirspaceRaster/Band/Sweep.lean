import AirspaceRaster.Band.Choice
import AirspaceRaster.Band.HeightBands

/-! The sweep through the altitudes above a point. It starts at the lowest floor and stops at every
    altitude at which some airspace begins or ends, up to the highest ceiling. Between two stops
    nothing changes, so the vector that is chosen at a stop stands for the band up to the next one;
    where no airspace covers the stop there is no band. -/

namespace AirspaceRaster.Sweep

variable {R : Type} {table : AirspaceTable R}

def lowest? (hs : List Altitude) : Option Altitude :=
  winner (fun best h => best ≤ h) hs

def highest? (hs : List Altitude) : Option Altitude :=
  winner (fun best h => h ≤ best) hs

/-- The lowest floor, where the sweep starts. -/
def lowestFloor? (vs : List (AirspaceVector table)) : Option Altitude :=
  lowest? (vs.map AirspaceVector.floor)

/-- The highest ceiling, where the sweep ends. -/
def highestCeiling? (vs : List (AirspaceVector table)) : Option Altitude :=
  highest? (vs.map AirspaceVector.ceiling)

/-- The altitudes at which an airspace begins or ends. -/
def limits (vs : List (AirspaceVector table)) : List Altitude :=
  vs.flatMap fun v => [v.floor, v.ceiling]

/-- The next altitude above `h` at which an airspace begins or ends. -/
def nextLimit? (vs : List (AirspaceVector table)) (h : Altitude) : Option Altitude :=
  lowest? ((limits vs).filter (h < ·))

theorem mem_of_nextLimit? {vs : List (AirspaceVector table)} {h n : Altitude}
    (hn : nextLimit? vs h = some n) : n ∈ limits vs ∧ h < n := by
  have hmem := mem_of_winner hn
  rw [List.mem_filter] at hmem
  exact ⟨hmem.1, of_decide_eq_true hmem.2⟩

theorem countP_lt_countP {α : Type} {p q : α → Bool} {l : List α} {a : α} (ha : a ∈ l)
    (hpa : p a = false) (hqa : q a = true) (hpq : ∀ x ∈ l, p x = true → q x = true) :
    l.countP p < l.countP q := by
  induction l with
  | nil => cases ha
  | cons b l ih =>
    rw [List.countP_cons, List.countP_cons]
    have hle : l.countP p ≤ l.countP q :=
      List.countP_mono_left fun x hx => hpq x (List.mem_cons_of_mem _ hx)
    rcases List.mem_cons.mp ha with rfl | ha
    · simp only [hpa, hqa]; simp; omega
    · have := ih ha fun x hx => hpq x (List.mem_cons_of_mem _ hx)
      cases hb : p b with
      | true => simp only [hpq b List.mem_cons_self hb]; simp; omega
      | false => simp; omega

/-- The stops of the sweep from `h` on, below `top`. -/
def stopsFrom (vs : List (AirspaceVector table)) (top h : Altitude) : List Altitude :=
  if h < top then
    match _hn : nextLimit? vs h with
    | some n => h :: stopsFrom vs top n
    | none => [h]
  else []
termination_by (limits vs).countP (h < ·)
decreasing_by
  obtain ⟨hmem, hlt⟩ := mem_of_nextLimit? _hn
  refine countP_lt_countP hmem (decide_eq_false (Altitude.lt_irrefl n)) (decide_eq_true hlt) ?_
  intro x _ hx
  have hx := of_decide_eq_true hx
  exact decide_eq_true (Altitude.lt_trans hlt hx)

theorem le_of_mem_stopsFrom {vs : List (AirspaceVector table)} {top h x : Altitude}
    (hx : x ∈ stopsFrom vs top h) : x = h ∨ h < x := by
  fun_induction stopsFrom vs top h with
  | case1 h _ n hn ih =>
    rcases List.mem_cons.mp hx with rfl | hx
    · exact .inl rfl
    · have hlt := (mem_of_nextLimit? hn).2
      rcases ih hx with rfl | hn'
      · exact .inr hlt
      · exact .inr (Altitude.lt_trans hlt hn')
  | case2 h _ hn => exact .inl (List.mem_singleton.mp hx)
  | case3 => cases hx

theorem pairwise_stopsFrom (vs : List (AirspaceVector table)) (top h : Altitude) :
    (stopsFrom vs top h).Pairwise (· < ·) := by
  fun_induction stopsFrom vs top h with
  | case1 h _ n hn ih =>
    refine List.pairwise_cons.mpr ⟨fun x hx => ?_, ih⟩
    have hlt := (mem_of_nextLimit? hn).2
    rcases le_of_mem_stopsFrom hx with rfl | hn'
    · exact hlt
    · exact Altitude.lt_trans hlt hn'
  | case2 => exact List.pairwise_singleton ..
  | case3 => exact .nil

def stops (vs : List (AirspaceVector table)) : List Altitude :=
  match lowestFloor? vs, highestCeiling? vs with
  | some low, some high => stopsFrom vs high low
  | _, _ => []

theorem pairwise_stops (vs : List (AirspaceVector table)) : (stops vs).Pairwise (· < ·) := by
  unfold stops
  split
  · exact pairwise_stopsFrom ..
  · exact .nil

/-- The bands that the sweep finds. -/
def resolve [Scalar R] (vs : List (AirspaceVector table)) : HeightBands table :=
  .ofAscending (stops vs) (pairwise_stops vs) (AirspaceVector.chosenAt? vs)

end AirspaceRaster.Sweep
