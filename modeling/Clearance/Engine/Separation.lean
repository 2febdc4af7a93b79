import Clearance.Shape.Solid

/-! How far a cuboid lies from another cuboid or from a facet, along every direction that could
separate them: the normals of their faces, and the directions square to an edge of each. They touch
if none of these gaps is positive, and the widest gap tells the direction in which they face each
other. A direction without length has no gap, and a gap that is no number is left out. -/

namespace Clearance

/-- The gap between two bodies along a direction, negative as far as they reach into each other. -/
structure Gap where
  size : Float
  direction : Vec3 Float

namespace Gap

/-- No gap at all. -/
def closed (direction : Vec3 Float) : Gap := ⟨-Scalar.largest, direction⟩

def wider (g k : Gap) : Gap := if g.size < k.size then k else g

/-- The widest gap, the first one of several. -/
def widest (otherwise : Vec3 Float) (gaps : List Gap) : Gap := gaps.foldl wider (closed otherwise)

end Gap

namespace Separation

/-- The gap between the side of a cuboid on the ray `s` along an axis and the point of the other
body, given by its farthest points and its pose, that lies nearest to that side. -/
def sideGap (h : Vec3 Float) (support : Vec3 Float → Vec3 Float) (p : Pose Float) (s : Float)
    (i : Axis) : Gap :=
  let near := p.apply (support (p.rotation.conjugate.rotate (-(i.vector s))))
  ⟨near.along i * s - h.along i, i.vector s⟩

/-- The gap at the sides of a cuboid that face the centre of the other one. -/
def facingGap (h1 h2 : Vec3 Float) (p : Pose Float) : Gap :=
  .widest .zero <| Axis.all.map fun i =>
    sideGap h1 (Solid.cuboidSupport h2) p (Scalar.withSign 1 (p.origin.along i)) i

/-- The gap at all six sides of a cuboid. -/
def sidesGap (h : Vec3 Float) (support : Vec3 Float → Vec3 Float) (p : Pose Float) : Gap :=
  .widest .zero <| Axis.all.flatMap fun i => [sideGap h support p (-1) i, sideGap h support p 1 i]

/-- The directions square to `e` and to one of the axes. -/
def squareTo (e : Vec3 Float) : List (Vec3 Float) :=
  [⟨0, -e.z, e.y⟩, ⟨e.z, 0, -e.x⟩, ⟨-e.y, e.x, 0⟩]

/-- The gap of two cuboids along a line, on the side of the second one's centre. -/
def lineGap (h1 h2 : Vec3 Float) (p : Pose Float) (line : Vec3 Float) : Gap :=
  let d := line.scale (Scalar.withSign 1 (p.origin.dot line))
  let near := p.apply (Solid.cuboidSupport h2 (p.rotation.conjugate.rotate (-d)))
  ⟨(near - Solid.cuboidSupport h1 d).dot d, d⟩

/-- The gap along the directions square to an edge of each cuboid. -/
def edgesGap (h1 h2 : Vec3 Float) (p : Pose Float) : Gap :=
  .widest .zero <|
    ((Axis.all.map fun i => p.rotation.rotate (i.vector 1)).flatMap squareTo).filterMap fun d =>
      if Scalar.epsilon < d.norm then some (lineGap h1 h2 p d.normalize) else none

/-- The gap on the two sides of a facet that has a face, to a cuboid at `p`. -/
def faceGap (f : Facet Float) (h : Vec3 Float) (p : Pose Float) : Gap :=
  match ((f.b - f.a).cross (f.c - f.a)).direction? Scalar.epsilon with
  | none => .closed .zero
  | some (up, _) =>
    let size (n : Vec3 Float) : Float :=
      (p.apply (Solid.cuboidSupport h (p.rotation.conjugate.rotate (-n))) - f.a).dot n
    if size (-up) ≤ size up then ⟨size up, up⟩ else ⟨size (-up), -up⟩

/-- The gaps on both sides of a cuboid along the directions square to an edge of it and to the side
of a facet from `a`, with the corner `b` off that side. -/
def acrossSide (h side a b : Vec3 Float) : List Gap :=
  (squareTo side).flatMap fun d =>
    let size := d.norm
    if Scalar.epsilon < d.normSq then
      let reach := (Solid.cuboidSupport h d).dot d / size
      let u := d.dot a
      let v := d.dot b
      let low := if v < u then v else u
      let high := if v < u then u else v
      [⟨low / size - reach, d.divBy size⟩, ⟨-high / size - reach, (-d).divBy size⟩]
    else []

/-- The gap of a cuboid and a facet in its frame along the directions square to an edge of each. -/
def facetEdgesGap (h : Vec3 Float) (f : Facet Float) : Gap :=
  let ab := f.b - f.a
  .widest ⟨0, -ab.z, ab.y⟩ <| acrossSide h ab f.a f.c ++ acrossSide h (f.c - f.b) f.a f.c ++
    acrossSide h (f.a - f.c) f.a f.b

/-- Three gaps in which two bodies are separated if at all: at the faces of the first, at the faces
of the second, and between edges. Directions are seen from the first body, but those at the faces of
the second from the second. -/
structure Gaps where
  first : Gap
  second : Gap
  edges : Gap

/-- The gaps of two cuboids, the second one at `p`. -/
def cuboidGaps (h1 h2 : Vec3 Float) (p : Pose Float) : Gaps :=
  ⟨facingGap h1 h2 p, facingGap h2 h1 p.inverse, edgesGap h1 h2 p⟩

/-- The gaps of a cuboid and a facet at `p`. The pose `back` is that of the cuboid to the facet. -/
def cuboidFacetGaps (h : Vec3 Float) (f : Facet Float) (p back : Pose Float) : Gaps :=
  ⟨sidesGap h f.support p, faceGap f h back, facetEdgesGap h (f.place p)⟩

namespace Gaps

/-- Whether no gap is open. -/
def areClosed (g : Gaps) : Bool :=
  !(0 < g.first.size) && !(0 < g.second.size) && g.edges.size ≤ 0

/-- The direction of the widest gap, seen from the first body. The faces of the second body win only
if their gap is wider than both others. -/
def direction (g : Gaps) (p : Pose Float) : Vec3 Float :=
  if g.first.size < g.second.size ∧ g.edges.size < g.second.size then
    p.rotation.rotate (-g.second.direction)
  else if g.first.size < g.edges.size then g.edges.direction
  else g.first.direction

end Gaps

end Separation

end Clearance
