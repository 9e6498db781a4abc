/-! Altitudes in feet above the sea or above the ground. They are ordered by feet, and at equal feet
    the one above the sea comes first, so two limits with different references are always two. -/

namespace AirspaceRaster

/-- What an altitude is measured from. -/
inductive Reference where
  | sea
  | ground
  deriving DecidableEq, Repr

namespace Reference

def label : Reference → String
  | sea => "MSL"
  | ground => "AGL"

/-- The rank among altitudes of equal feet. -/
def rank : Reference → Nat
  | sea => 0
  | ground => 1

def ofFlag (ground : Bool) : Reference :=
  if ground then .ground else .sea

theorem rank_inj {r s : Reference} (h : r.rank = s.rank) : r = s := by
  cases r <;> cases s <;> simp_all [rank]

end Reference

/-- An altitude in whole feet. -/
structure Altitude where
  feet : Int
  reference : Reference
  deriving DecidableEq, Repr

namespace Altitude

/-- The least and the greatest number of feet that an altitude can have when it is read or decoded. -/
def minFeet : Int := -2147483648

def maxFeet : Int := 2147483647

def isAboveGround (a : Altitude) : Bool :=
  a.reference = .ground

instance : LE Altitude where
  le a b := a.feet < b.feet ∨ a.feet = b.feet ∧ a.reference.rank ≤ b.reference.rank

instance : LT Altitude where
  lt a b := a.feet < b.feet ∨ a.feet = b.feet ∧ a.reference.rank < b.reference.rank

theorem le_def {a b : Altitude} :
    a ≤ b ↔ a.feet < b.feet ∨ a.feet = b.feet ∧ a.reference.rank ≤ b.reference.rank :=
  Iff.rfl

theorem lt_def {a b : Altitude} :
    a < b ↔ a.feet < b.feet ∨ a.feet = b.feet ∧ a.reference.rank < b.reference.rank :=
  Iff.rfl

instance : DecidableLE Altitude := fun a b =>
  inferInstanceAs (Decidable (a.feet < b.feet ∨ a.feet = b.feet ∧ a.reference.rank ≤ b.reference.rank))

instance : DecidableLT Altitude := fun a b =>
  inferInstanceAs (Decidable (a.feet < b.feet ∨ a.feet = b.feet ∧ a.reference.rank < b.reference.rank))

instance : Ord Altitude where
  compare a b := if a < b then .lt else if a = b then .eq else .gt

theorem not_le {a b : Altitude} : ¬ a ≤ b ↔ b < a := by
  rw [le_def, lt_def]; omega

theorem not_lt {a b : Altitude} : ¬ a < b ↔ b ≤ a := by
  rw [le_def, lt_def]; omega

theorem lt_trans {a b c : Altitude} (h₁ : a < b) (h₂ : b < c) : a < c := by
  rw [lt_def] at *; omega

theorem lt_irrefl (a : Altitude) : ¬ a < a := by
  rw [lt_def]; omega

theorem le_antisymm {a b : Altitude} (h₁ : a ≤ b) (h₂ : b ≤ a) : a = b := by
  rw [le_def] at *
  cases a; cases b
  simp only [mk.injEq] at *
  exact ⟨by omega, Reference.rank_inj (by omega)⟩

theorem lt_of_not_lt_of_ne {a b : Altitude} (h : ¬ a < b) (hne : a ≠ b) : b < a := by
  refine not_le.mp fun hle => hne (le_antisymm hle (not_lt.mp h))

def text (a : Altitude) : String :=
  toString a.feet ++ "ft " ++ a.reference.label

end Altitude

end AirspaceRaster
