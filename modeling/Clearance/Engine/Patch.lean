import Clearance.Space.Rounding
import Clearance.Space.Vec3

/-! Flat patches of the boundaries of two solids that face each other, and the points where they
meet. The patches are looked at along the direction in which they face: a corner of one inside the
other makes a point, and so do two sides that cross. -/

namespace Clearance

/-- The corners of a side or a face, in a circle. -/
abbrev Patch := List (Vec3 Float)

/-- A point seen along a direction. -/
structure Shadow where
  x : Float
  y : Float

namespace Shadow

instance : Sub Shadow := ⟨fun u v => ⟨u.x - v.x, u.y - v.y⟩⟩

def dot (u v : Shadow) : Float := u.x * v.x + u.y * v.y

/-- Twice the area of the triangle that two vectors make, positive if the second one is to the left
of the first. -/
def perp (u v : Shadow) : Float := u.x * v.y - u.y * v.x

/-- The shadow of a point along `n`, on two axes square to `n`. -/
def along (n : Vec3 Float) : Vec3 Float → Shadow :=
  let sign := Scalar.withSign 1 n.z
  let a := -1 / (sign + n.z)
  let b := n.x * n.y * a
  let u : Vec3 Float := ⟨1 + sign * n.x * n.x * a, sign * b, -sign * n.x⟩
  let v : Vec3 Float := ⟨b, sign + n.y * n.y * a, -n.y⟩
  fun p => ⟨p.dot u, p.dot v⟩

/-- The direction of a vector that is not too short to have one. -/
def direction? (v : Shadow) : Option Shadow :=
  let n := (v.dot v).sqrt
  if n ≤ Scalar.epsilon then none else some ⟨v.x / n, v.y / n⟩

end Shadow

namespace Patch

/-- The sides of a patch, from each corner to the next. -/
def sides {κ : Type} (corners : List κ) : List (κ × κ) :=
  match corners with
  | [] => []
  | c :: cs => corners.zip (cs ++ [c])

/-- The sides beginning with the one that ends at the first corner. -/
def sidesFromLast {κ : Type} (corners : List κ) : List (κ × κ) :=
  match (sides corners).reverse with
  | [] => []
  | s :: ss => s :: ss.reverse

/-- Whether a point is not seen on both sides of a patch. -/
def holds (patch : List Shadow) (p : Shadow) : Bool :=
  match (sidesFromLast patch).map fun (u, v) => (v - u).perp (p - u) with
  | [] => true
  | t :: ts => go t ts
where
  go (sign : Float) : List Float → Bool
    | [] => true
    | t :: ts => if sign == 0 then go t ts else !(sign * t < 0) && go sign ts

/-- A direction square to a patch, if it has more than two corners. -/
def normal? : Patch → Option (Vec3 Float)
  | a :: b :: c :: _ => some ((c - b).cross (a - b))
  | _ => none

/-- The corners of one patch inside another, with their distances to its plane along `n`. -/
def inner (shadow : Vec3 Float → Shadow) (n : Vec3 Float) (patch corners : Patch) :
    List (Vec3 Float × Float) :=
  match normal? patch, patch with
  | some up, base :: _ =>
    let steepness := up.dot n
    if Scalar.nearlyEqual steepness 0 then []
    else (corners.filter fun p => holds (patch.map shadow) (shadow p)).map fun p =>
      (p, (base - p).dot up / steepness)
  | _, _ => []

/-- Where the lines through two sides cross, as shares of the second end of each. Parallel lines do
not cross. -/
def crossing? (s t : Shadow × Shadow) : Option (Float × Float) :=
  let d1 := s.2 - s.1
  let d2 := t.2 - t.1
  let r := s.1 - t.1
  let a := d1.dot d1
  let e := d2.dot d2
  let f := d2.dot r
  if a ≤ Scalar.epsilon ∧ e ≤ Scalar.epsilon then some (0, 0)
  else if a ≤ Scalar.epsilon then some (0, f / e)
  else
    let c := d1.dot r
    if e ≤ Scalar.epsilon then some (-c / a, 0)
    else
      let b := d1.dot d2
      let size := a * e - b * b
      if size ≤ Scalar.epsilon || Scalar.adjacent (a * e) (b * b) then none
      else
        let u := (b * f - c * e) / size
        some (u, (b * u + f) / e)

/-- The point of a side at a share of its second end. -/
def pointAt (side : Vec3 Float × Vec3 Float) (share : Float) : Vec3 Float :=
  side.1.scale (1 - share) + side.2.scale share

/-- The points of two faces that lie on each other, as seen along `n`, by a point of each. -/
def faceContacts (n : Vec3 Float) (f g : Patch) : List (Vec3 Float × Vec3 Float × Float) :=
  let shadow := Shadow.along n
  let shadows (s : Vec3 Float × Vec3 Float) : Shadow × Shadow := (shadow s.1, shadow s.2)
  let isWithin (t : Float) : Bool := 0 < t && t < 1
  let cross (t s : Vec3 Float × Vec3 Float) : Option (Vec3 Float × Vec3 Float × Float) := do
    let (u, v) ← crossing? (shadows s) (shadows t)
    if isWithin u && isWithin v then
      let p := pointAt s u
      let q := pointAt t v
      return (p, q, (q - p).dot n)
    else none
  ((inner shadow n g f).map fun (p, d) => (p, p + n.scale d, d)) ++
    ((inner shadow (-n) f g).map fun (q, d) => (q - n.scale d, q, d)) ++
    (sides g).flatMap fun t => (sides f).filterMap (cross t)

/-- Cuts `x` off at zero and at one. What is no number becomes zero. -/
def clamp (x : Float) : Float := if 0 < x then if x < 1 then x else 1 else 0

/-- The nearest points of two sides as shares of the second end of each. -/
def nearestShares (s t : Shadow × Shadow) : Float × Float :=
  let d1 := s.2 - s.1
  let d2 := t.2 - t.1
  let r := s.1 - t.1
  let a := d1.dot d1
  let e := d2.dot d2
  let f := d2.dot r
  if a ≤ Scalar.epsilon ∧ e ≤ Scalar.epsilon then (0, 0)
  else if a ≤ Scalar.epsilon then (0, clamp (f / e))
  else
    let c := d1.dot r
    if e ≤ Scalar.epsilon then (clamp (-c / a), 0)
    else
      let b := d1.dot d2
      let size := a * e - b * b
      let u :=
        if Scalar.epsilon < size && !Scalar.adjacent (a * e) (b * b) then
          clamp ((b * f - c * e) / size)
        else 0
      let v := (b * u + f) / e
      if v < 0 then (clamp (-c / a), 0)
      else if 1 < v then (clamp ((b - c) / a), 1)
      else (u, v)

/-- The ends of the stretch that two sides have in common along the first one, by a point of each
side. -/
def overlapEnds (s t : Vec3 Float × Vec3 Float) : List (Vec3 Float × Vec3 Float) :=
  let d := s.2 - s.1
  let size := d.normSq
  let u := (t.1 - s.1).dot d
  let v := (t.2 - s.1).dot d
  let (t, u, v) := if v < u then ((t.2, t.1), v, u) else (t, u, v)
  if size < u ∨ v < 0 then []
  else
    let onSecond (x : Float) : Vec3 Float := t.1 + (t.2 - t.1).scale ((x - u) / (v - u))
    [if 0 < u then (s.1 + d.scale (u / size), t.1) else (s.1, onSecond 0),
      if v < size then (s.1 + d.scale (v / size), t.2) else (s.2, onSecond size)]

/-- The cosine of a quarter of a right angle. Sides that differ by less are taken for parallel. -/
def cosParallel : Float := 0.92387953251

/-- The points of two sides that lie on each other, as seen along `n`. -/
def sideContacts (n : Vec3 Float) (s t : Vec3 Float × Vec3 Float) :
    List (Vec3 Float × Vec3 Float × Float) :=
  let shadow := Shadow.along n
  let s' := (shadow s.1, shadow s.2)
  let t' := (shadow t.1, shadow t.2)
  let withDistance (p q : Vec3 Float) : Vec3 Float × Vec3 Float × Float := (p, q, (q - p).dot n)
  let isAcross : Bool :=
    match (s'.2 - s'.1).direction?, (t'.2 - t'.1).direction? with
    | some u, some v => !(cosParallel ≤ u.dot v)
    | _, _ => false
  if isAcross then
    let (u, v) := nearestShares s' t'
    [withDistance (pointAt s u) (pointAt t v)]
  else (overlapEnds s t).map fun (p, q) => withDistance p q

/-- The points of two patches that lie on each other, as seen along `n`: a point of each, and how
far the second one lies from the first. -/
def contacts (n : Vec3 Float) : Patch → Patch → List (Vec3 Float × Vec3 Float × Float)
  | [a, b], [c, d] => sideContacts n (a, b) (c, d)
  | f, g => faceContacts n f g

end Patch

end Clearance
