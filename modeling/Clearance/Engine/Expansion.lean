import Clearance.Engine.Convex
import Clearance.Engine.Heap

/-! How deep two overlapping convex bodies lie in each other. The differences of their points make
up a body that holds the origin, and the point of its boundary nearest to the origin tells the
shortest way out. A hull of triangles inside that body is expanded at its face nearest to the
origin, until the face lies on the boundary. -/

namespace Clearance.Expansion

/-- A triangle of a hull, by the numbers of its corners. `across` holds the numbers of the triangles
beyond its sides, the side from the first corner to the second one first. The shares are those of
the point nearest to the origin. A triangle that is gone keeps its number. -/
structure Panel where
  corners : Vec3 Nat
  across : Vec3 Nat
  normal : Vec3 Float
  shares : Vec3 Float
  gone : Bool := false

/-- Triangles around the origin. Those that may be nearest to it wait in the queue. -/
structure Hull where
  corners : Array Difference
  panels : Array Panel := #[]
  queue : Heap Nat := {}

/-- A side of a hole in a hull: the triangle beyond it and the corner of that triangle that lies
across. -/
structure Rim where
  panel : Nat
  apex : Axis

namespace Panel

/-- The direction that a triangle faces if its corners run counter-clockwise. -/
def facing (f : Facet Float) : Vec3 Float :=
  match ((f.b - f.a).cross (f.c - f.a)).direction? Scalar.epsilon with
  | some (n, _) => n
  | none => .zero

/-- The corner after the one with the given number. -/
def after (t : Panel) (corner : Nat) : Axis :=
  if t.corners.x == corner then .y else if t.corners.y == corner then .z else .x

end Panel

namespace Hull

def facet? (h : Hull) (corners : Vec3 Nat) : Option (Facet Float) := do
  return ⟨(← h.corners[corners.x]?).point, (← h.corners[corners.y]?).point,
    (← h.corners[corners.z]?).point⟩

/-- A triangle between corners, and whether its plane comes as near to the origin as the triangle
itself, but for rounding. -/
def panel? (h : Hull) (corners across : Vec3 Nat) : Option (Panel × Bool) := do
  let f ← h.facet? corners
  let place := f.region .zero
  let isNear : Bool :=
    match place with
    | .face .. => true
    | .nowhere => false
    | _ => (f.pointAt? place).any fun q =>
      q.normSq < Scalar.epsilon * 100 * (Scalar.epsilon * 100)
  return ({ corners, across, normal := Panel.facing f, shares := place.shares }, isNear)

/-- How far a triangle lies from the origin, along its normal. -/
def distance? (h : Hull) (t : Panel) : Option Float := do
  return t.normal.dot (← h.corners[t.corners.x]?).point

/-- The points of the two bodies that the nearest point of a triangle stands for. -/
def points? (h : Hull) (t : Panel) : Option (Vec3 Float × Vec3 Float) := do
  let a ← h.corners[t.corners.x]?
  let b ← h.corners[t.corners.y]?
  let c ← h.corners[t.corners.z]?
  let blend (f : Difference → Vec3 Float) : Vec3 Float :=
    (f a).scale t.shares.x + (f b).scale t.shares.y + (f c).scale t.shares.z
  return (blend (·.first), blend (·.second))

/-- The hull with one triangle more, and whether that triangle comes near to the origin as above. -/
def add? (h : Hull) (corners across : Vec3 Nat) : Option (Hull × Bool) := do
  let (t, isNear) ← h.panel? corners across
  return ({ h with panels := h.panels.push t }, isNear)

/-- Puts a triangle on the queue by its distance. The hull is of no use if the origin lies
outside the triangle's plane. -/
def enqueue? (h : Hull) (panel : Nat) (distance : Float) : Option Hull :=
  if Simplex.tolerance < -distance then none
  else some { h with queue := h.queue.push (-distance) panel }

/-! ### First hulls -/

/-- A triangle seen from both sides. -/
def ofTriangle? (a b c : Difference) : Option Hull := do
  let h : Hull := { corners := #[a, b, c] }
  let (h, _) ← h.add? ⟨0, 1, 2⟩ ⟨1, 1, 1⟩
  let (h, _) ← h.add? ⟨0, 2, 1⟩ ⟨0, 0, 0⟩
  (← h.enqueue? 0 0).enqueue? 1 0

/-- A tetrahedron, its corners turned so that its faces look outwards. -/
def ofTetrahedron? (a b c d : Difference) : Option Hull := do
  let isTurned : Bool :=
    0 < ((b.point - a.point).cross (c.point - a.point)).dot (d.point - a.point)
  let h : Hull := { corners := if isTurned then #[a, c, b, d] else #[a, b, c, d] }
  let (h, near0) ← h.add? ⟨0, 1, 2⟩ ⟨3, 1, 2⟩
  let (h, near1) ← h.add? ⟨1, 3, 2⟩ ⟨3, 2, 0⟩
  let (h, near2) ← h.add? ⟨0, 2, 3⟩ ⟨0, 1, 3⟩
  let (h, near3) ← h.add? ⟨0, 3, 1⟩ ⟨2, 1, 0⟩
  let enqueueNear (h : Hull) (isNear : Bool) (panel corner : Nat) : Option Hull := do
    if isNear then
      h.enqueue? panel ((← h.panels[panel]?).normal.dot (← h.corners[corner]?).point)
    else some h
  let h ← enqueueNear h near0 0 0
  let h ← enqueueNear h near1 1 1
  let h ← enqueueNear h near2 2 2
  let h ← enqueueNear h near3 3 3
  if near0 || near1 || near2 || near3 then some h else none

/-- A direction square to a segment. -/
def squareTo (v : Vec3 Float) : Vec3 Float :=
  let a : Vec3 Float := if v.y.abs < v.x.abs then ⟨v.z, 0, -v.x⟩ else ⟨0, -v.z, v.y⟩
  a.normalize.cross v

/-! ### Expanding -/

/-- Whether a triangle is seen from a new corner, over the side across the corner `apex`. A triangle
that would come out flat next to that side counts as seen. -/
def sees? (h : Hull) (t : Panel) (apex : Axis) (corner : Nat) : Option Bool := do
  let p0 := (← h.corners[t.corners.along apex]?).point
  let p1 := (← h.corners[t.corners.along apex.next]?).point
  let p2 := (← h.corners[t.corners.along apex.next.next]?).point
  let p := (← h.corners[corner]?).point
  let flat := ((p2 - p1).cross (p - p1)).normSq
  let least := Scalar.epsilon * 100
  return -Simplex.tolerance ≤ (p - p0).dot t.normal || flat ≤ least * least

/-- What lies over a side of a triangle. -/
def over? (h : Hull) (t : Panel) (side : Axis) : Option Rim := do
  let panel := t.across.along side
  return ⟨panel, (← h.panels[panel]?).after (t.corners.along side)⟩

/-- Takes out the triangles that are seen from a new corner, beginning with those on the list, and
gives the rim of the hole. -/
def tear? (corner : Nat) : Nat → List Rim → Hull → Array Rim → Option (Hull × Array Rim)
  | _, [], h, rims => some (h, rims)
  | 0, _, _, _ => none
  | fuel + 1, rim :: rest, h, rims => do
    let t ← h.panels[rim.panel]?
    if t.gone then tear? corner fuel rest h rims
    else if ← h.sees? t rim.apex corner then
      let h := { h with panels := h.panels.setIfInBounds rim.panel { t with gone := true } }
      tear? corner fuel
        ((← h.over? t rim.apex.next.next) :: (← h.over? t rim.apex) :: rest) h rims
    else tear? corner fuel rest h (rims.push rim)

/-- The outcome of one step: a larger hull, or a point of each body and the direction out. -/
inductive Progress where
  | going (hull : Hull)
  | found (point1 point2 normal : Vec3 Float)

/-- Fills a hole with triangles from its rim to a new corner. A new triangle that comes nearer to
the origin than the old one, at distance `least`, shows that rounding has won, and the old one is
the answer. -/
def fill? (corner : Nat) (old : Panel) (least : Float) :
    List Rim → Hull → Option Progress
  | [], h => some (.going h)
  | rim :: rest, h => do
    let t ← h.panels[rim.panel]?
    if t.gone then fill? corner old least rest h
    else
      let new := h.panels.size
      let corners := ⟨t.corners.along rim.apex.next.next, t.corners.along rim.apex.next, corner⟩
      let (h, isNear) ← h.add? corners ⟨rim.panel, new + 1, new - 1⟩
      let t := { t with across := t.across.put new rim.apex.next }
      let h := { h with panels := h.panels.setIfInBounds rim.panel t }
      if isNear then
        let distance ← h.distance? (← h.panels[new]?)
        if distance < least then
          let (u, v) ← h.points? old
          return .found u v old.normal
        else fill? corner old least rest (← h.enqueue? new distance)
      else fill? corner old least rest h

/-- Joins the first and the last of the new triangles. -/
def close? (first : Nat) (h : Hull) : Option Hull := do
  let last := h.panels.size - 1
  if last < first then none
  else
    let t ← h.panels[first]?
    let h := { h with panels := h.panels.setIfInBounds first { t with across.z := last } }
    let t ← h.panels[last]?
    return { h with panels := h.panels.setIfInBounds last { t with across.y := first } }

/-- Takes the triangle nearest to the origin from the queue, with its distance, and skips those that
are gone. -/
def nearest? : Nat → Hull → Option (Float × Nat × Panel × Hull)
  | 0, _ => none
  | fuel + 1, h => do
    let ((key, panel), queue) ← h.queue.pop?
    let h := { h with queue }
    let t ← h.panels[panel]?
    if t.gone then nearest? fuel h else return (-key, panel, t, h)

/-- The best triangle so far and how far the body reaches along its normal. -/
structure Bound where
  panel : Nat
  reach : Float

/-- A triangle as the answer. -/
def answer? (h : Hull) (panel : Nat) : Option (Vec3 Float × Vec3 Float × Vec3 Float) := do
  let t ← h.panels[panel]?
  let (u, v) ← h.points? t
  return (u, v, t.normal)

/-- Expands a hull until its nearest triangle lies on the boundary, or at most `fuel` times. -/
def expand? (difference : Vec3 Float → Difference) :
    Nat → Bound → Hull → Option (Vec3 Float × Vec3 Float × Vec3 Float)
  | 0, best, h => h.answer? best.panel
  | fuel + 1, best, h =>
    match h.nearest? (h.queue.entries.size + 1) with
    | none => h.answer? best.panel
    | some (distance, panel, t, h) => do
      let p := difference t.normal
      let corner := h.corners.size
      let h := { h with corners := h.corners.push p }
      let reach := p.point.dot t.normal
      let best : Bound := if reach < best.reach then ⟨panel, reach⟩ else best
      if best.reach - distance < Scalar.epsilon * 100 then h.answer? best.panel
      else
        let h := { h with panels := h.panels.setIfInBounds panel { t with gone := true } }
        let starts := [← h.over? t .x, ← h.over? t .y, ← h.over? t .z]
        let (h, rims) ← h.tear? corner (2 * h.panels.size + 4) starts #[]
        if rims.isEmpty then none
        else
          match ← h.fill? corner t distance rims.toList with
          | .found u v n => return (u, v, n)
          | .going filled => expand? difference fuel best (← filled.close? h.panels.size)

end Hull

/-- The shortest way out of an overlap, by a point of each body and the direction along which the
second body leaves. A simplex of one corner tells nothing, and the bodies are said to meet at their
frames' origin. -/
def shortest? (difference : Vec3 Float → Difference) (s : Simplex Difference) :
    Option (Vec3 Float × Vec3 Float × Vec3 Float) :=
  match s with
  | .point _ => some (.zero, .zero, .unitY)
  | .segment a b =>
    expand (Hull.ofTriangle? a b (difference (Hull.squareTo (b.point - a.point))))
  | .triangle a b c => expand (Hull.ofTriangle? a b c)
  | .tetrahedron a b c d => expand (Hull.ofTetrahedron? a b c d)
where
  expand (hull? : Option Hull) : Option (Vec3 Float × Vec3 Float × Vec3 Float) := do
    let h ← hull?
    let (_, panel) ← h.queue.entries[0]?
    h.expand? difference 101 ⟨panel, Scalar.largest⟩

end Clearance.Expansion
