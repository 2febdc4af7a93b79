import Clearance.Engine.Region
import Clearance.Space.Rounding

/-! Nearest points: the point on the boundary of a solid nearest to a given one, and whether the
given one lies inside. A coordinate that is no number counts as inside a cuboid. -/

namespace Clearance

/-- A nearest point of a solid. -/
structure Projection where
  point : Vec3 Float
  isInside : Bool

namespace Projection

def ontoHalfSpace (n c : Vec3 Float) : Projection :=
  let d := n.dot c
  ⟨c - n.scale d, d ≤ 0⟩

/-- How far `x` exceeds zero; nothing if it is no number. -/
def excess (x : Float) : Float := if 0 ≤ x then x else 0

/-- The side of a cuboid that a point inside it lies nearest to: the axis of the side, and the shift
along it that leads there. -/
structure NearestSide where
  axis : Axis
  shift : Float

/-- The first of the nearest sides, given the signed distances to the low and to the high sides. The
distances are at most zero; where none is a number, the shift leads as far as numbers go. -/
def nearestSide (low high : Vec3 Float) : NearestSide :=
  let step (best : Float × NearestSide) (i : Axis) : Float × NearestSide :=
    let l := low.along i
    let h := high.along i
    if l < h then if best.1 < h then (h, ⟨i, -h⟩) else best
    else if best.1 < l then (l, ⟨i, l⟩) else best
  (Axis.all.foldl step (-Scalar.largest, ⟨.x, Scalar.largest⟩)).2

/-- A point outside moves by what it exceeds the sides, a point inside to the nearest side. -/
def ontoCuboid (h c : Vec3 Float) : Projection :=
  let low := -h - c
  let high := c - h
  let shift := low.map excess - high.map excess
  if shift.eq .zero then
    let side := nearestSide low high
    ⟨c + side.axis.vector side.shift, true⟩
  else ⟨c + shift, false⟩

/-- Projects a point on a cylinder along `y`, through its flat ends or its side. -/
def ontoCylinder (halfHeight radius : Float) (c : Vec3 Float) : Projection :=
  let flat : Vec3 Float := ⟨c.x, 0, c.z⟩
  let n := flat.norm
  let rim := (if n ≤ Scalar.epsilon then .unitX else flat.divBy n : Vec3 Float).scale radius
  let atEnd (y : Float) : Vec3 Float := if n ≤ radius then ⟨c.x, y, c.z⟩ else ⟨rim.x, y, rim.z⟩
  let onSide : Vec3 Float := ⟨rim.x, c.y, rim.z⟩
  if -halfHeight ≤ c.y ∧ c.y ≤ halfHeight ∧ n ≤ radius then
    let top := halfHeight - c.y
    let bottom := c.y + halfHeight
    let side := radius - n
    if top < bottom ∧ top < side then ⟨atEnd halfHeight, true⟩
    else if bottom < top ∧ bottom < side then ⟨atEnd (-halfHeight), true⟩
    else ⟨onSide, true⟩
  else if halfHeight < c.y then ⟨atEnd halfHeight, false⟩
  else if c.y < -halfHeight then ⟨atEnd (-halfHeight), false⟩
  else ⟨onSide, false⟩

/-- A point found on a facet; a point that lies there itself counts as inside. -/
def onFacet (p point : Vec3 Float) : Projection :=
  ⟨point, Axis.all.all fun i => Scalar.nearlyEqual (point.along i) (p.along i)⟩

/-- The point of a facet nearest to `p`. A facet without a face counts the points that have no place
on it as its own. -/
def ontoFacet (f : Facet Float) (p : Vec3 Float) : Projection :=
  match f.pointAt? (f.region p) with
  | some q => onFacet p q
  | none => ⟨p, true⟩

/-- The distance from a point to a box, zero inside it. -/
def distanceToBox (c : Vec3 Float) (b : Bounds Float) : Float :=
  ((b.low - c).zipWith Scalar.max (c - b.high) |>.map excess).norm

/-- The nearest point of the facets in a tree. -/
def ontoFacets? (t : BoxTree (Facet Float)) (c : Vec3 Float) : Option Projection :=
  t.best? (distanceToBox c) fun f =>
    let q := ontoFacet f c
    ((q.point - c).norm, q)

/-- Whether a point lies inside the solid of a projection or at most `r` away from it. -/
def within (t : Projection) (c : Vec3 Float) (r : Float) : Bool :=
  t.isInside || (c - t.point).normSq ≤ r * r

end Projection

end Clearance
