/-! The orientation of a triangle of doubles, that is the sign of a difference of two products. The
    difference is first computed as it stands. Only where its rounding errors could have changed the
    sign it is refined, in the end to a sum of several doubles that is the difference itself. So the
    orientation is exact unless a product over- or underflows; of an undefined difference it is that of
    corners on one line. -/

namespace AirspaceRaster.Binary64

/-- What the rounded sum `s` of two doubles lacks of the exact one. -/
def sumError (a b s : Float) : Float :=
  let b' := s - a
  let a' := s - b'
  (a - a') + (b - b')

/-- What the rounded difference `d` of two doubles lacks of the exact one. -/
def differenceError (a b d : Float) : Float :=
  let b' := a - d
  let a' := d + b'
  (a - a') + (b' - b)

/-- The upper and the lower half of the digits of a double. -/
def halves (a : Float) : Float × Float :=
  let c := 134217729.0 * a
  let upper := c - (c - a)
  (upper, a - upper)

/-- What the rounded product `p` of two doubles lacks of the exact one. -/
def productError (a b p : Float) : Float :=
  let (a₁, a₀) := halves a
  let (b₁, b₀) := halves b
  a₀ * b₀ - (p - a₁ * b₁ - a₀ * b₁ - a₁ * b₀)

/-- A number as a sum of doubles that grow in magnitude and have no digits in common. Zero is the empty
    sum. -/
abbrev Expansion := List Float

namespace Expansion

/-- The sum of two doubles less a third one, the largest part first. -/
def less (a₁ a₀ b : Float) : Float × Float × Float :=
  let d := a₀ - b
  let s := a₁ + d
  (s, sumError a₁ d s, differenceError a₀ b d)

/-- The difference `a · b - c · d`. -/
def ofProducts (a b c d : Float) : Expansion :=
  let p := a * b
  let q := c * d
  let (s₁, s₀, x₀) := less p (productError a b p) (productError c d q)
  let (x₃, x₂, x₁) := less s₁ s₀ q
  [x₀, x₁, x₂, x₃]

/-- Whether the first of two doubles has the smaller magnitude. -/
def isSmaller (a b : Float) : Bool :=
  decide (a < b) == decide (-a < b)

/-- The doubles of a list added to `sum` one after the other. What a rounding loses is kept, unless it
    is zero. -/
def distill (sum : Float) : List Float → Expansion
  | [] => if sum == 0.0 then [] else [sum]
  | x :: rest =>
    let next := sum + x
    let error := sumError sum x next
    if error == 0.0 then distill next rest else error :: distill next rest

/-- The sum of two expansions. -/
def add (e f : Expansion) : Expansion :=
  match List.merge e f isSmaller with
  | [] => []
  | x :: rest => distill x rest

/-- The double near an expansion that is found by adding its parts. -/
def estimate (e : Expansion) : Float :=
  e.foldl (· + ·) 0.0

/-- The largest part, which has the sign of the whole. -/
def leading (e : Expansion) : Float :=
  e.getLast?.getD 0.0

end Expansion

/-- Whether a number is so far from zero that an error within a bound cannot change its sign. -/
def isDecided (x bound : Float) : Bool :=
  decide (bound ≤ x) || decide (bound ≤ -x)

/-- A number with the sign of the area of the triangle `a b c`, given the magnitude of the products
    whose difference it is. First the products become exact, then the differences of coordinates in
    them. -/
def refinedArea (a b c : Float × Float) (size : Float) : Float :=
  let u₁ := a.1 - c.1
  let u₂ := a.2 - c.2
  let v₁ := b.1 - c.1
  let v₂ := b.2 - c.2
  let products := Expansion.ofProducts u₁ v₂ u₂ v₁
  let area := products.estimate
  if isDecided area (2.2204460492503146e-16 * size) then area
  else
    let u₁' := differenceError a.1 c.1 u₁
    let u₂' := differenceError a.2 c.2 u₂
    let v₁' := differenceError b.1 c.1 v₁
    let v₂' := differenceError b.2 c.2 v₂
    if u₁' == 0.0 && u₂' == 0.0 && v₁' == 0.0 && v₂' == 0.0 then area
    else
      let bound := 1.1093356479670487e-31 * size + 3.3306690738754706e-16 * area.abs
      let corrected := area + ((u₁ * v₂' + v₂ * u₁') - (u₂ * v₁' + v₁ * u₂'))
      if isDecided corrected bound then corrected
      else
        let e := products.add (.ofProducts u₁' v₂ u₂' v₁)
        let e := e.add (.ofProducts u₁ v₂' u₂ v₁')
        (e.add (.ofProducts u₁' v₂' u₂' v₁')).leading

/-- The orientation of the triangle `a b c`, each corner given by abscissa and ordinate: `gt` for
    counter-clockwise, `lt` for clockwise, else `eq`. -/
def orientation (a b c : Float × Float) : Ordering :=
  let left := (a.1 - c.1) * (b.2 - c.2)
  let right := (a.2 - c.2) * (b.1 - c.1)
  let size := (left + right).abs
  let area :=
    if isDecided (left - right) (3.3306690621773724e-16 * size) then left - right
    else refinedArea a b c size
  if area < 0.0 then .lt else if 0.0 < area then .gt else .eq

end AirspaceRaster.Binary64
