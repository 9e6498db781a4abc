import AirspaceRaster.Level.Decoded

/-! The record of a grid point: its levels one after the other, four bytes each. -/

namespace AirspaceRaster.Record

/-- The levels that a record consists of. Up to three bytes at the end that are no level are left
    out. -/
def descriptors : List UInt8 → List LevelDescriptor
  | f :: c :: b :: d :: rest => ⟨f, c, b, d⟩ :: descriptors rest
  | _ => []

def ofDescriptors (ds : List LevelDescriptor) : List UInt8 :=
  ds.flatMap LevelDescriptor.toBytes

theorem descriptors_ofDescriptors (ds : List LevelDescriptor) :
    descriptors (ofDescriptors ds) = ds := by
  induction ds with
  | nil => rfl
  | cons d ds ih =>
    simp only [ofDescriptors, List.flatMap_cons, LevelDescriptor.toBytes] at ih ⊢
    simp [descriptors, ih]

theorem length_ofDescriptors (ds : List LevelDescriptor) :
    (ofDescriptors ds).length = ds.length * levelSize := by
  induction ds with
  | nil => rfl
  | cons d ds ih =>
    simp only [ofDescriptors, List.flatMap_cons, List.length_append,
      LevelDescriptor.length_toBytes] at ih ⊢
    simp only [ih, levelSize, List.length_cons]; omega

/-- The values of the levels of a record, none for a level that is not used. -/
def decode {R : Type} [Scalar R] (config : LevelConfig R) (record : List UInt8) :
    List (Option (DecodedLevel R)) :=
  (descriptors record).map (·.decode? config)

def line (level : Option (DecodedLevel Float)) (i : Nat) : String :=
  "level " ++ toString i ++ " " ++ match level with
    | some l => l.text
    | none => "---"

/-- The record described in one line for every level. -/
def describe (config : LevelConfig Float) (record : List UInt8) : List String :=
  (decode config record).mapIdx fun i level => line level i

end AirspaceRaster.Record
