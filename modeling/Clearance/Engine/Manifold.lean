import Clearance.Engine.Basic
import Clearance.Engine.Expansion
import Clearance.Engine.Part
import Clearance.Engine.Separation

/-! Contact manifolds. A ball has one contact, where its centre is projected to; a half-space has
one for each low corner of what it meets; other parts face each other along one direction and have
contacts where their patches lie on each other. A mesh has a manifold for each facet that may touch.
-/

namespace Clearance

/-- The same manifold with the two solids exchanged, when `pos12` is the pose of the second of them
before the exchange. -/
def Manifold.exchange (pos12 : Pose Float) (m : Manifold) : Manifold where
  normal1 := pos12.rotation.conjugate.rotate (-m.normal1)
  points := m.points.map fun p => ⟨p.point2, p.point1, p.dist⟩

namespace ManifoldRule

/-- The direction of `v` if it has a length, and `otherwise` if not. -/
def directionOr (v otherwise : Vec3 Float) : Vec3 Float :=
  match v.direction? 0 with
  | some (d, _) => d
  | none => otherwise

/-- Two balls touch when their surfaces cross; balls around one centre touch along `y`. -/
def balls (pos12 : Pose Float) (r1 r2 : Float) : Option Manifold :=
  let t := pos12.origin
  let dist := t.norm - r1 - r2
  if dist < 0 then
    let n := directionOr t .unitY
    some
      { normal1 := n
        points := [⟨n.scale r1, (pos12.rotation.conjugate.rotate (-n)).scale r2, dist⟩] }
  else none

/-- A part that points can be projected on and a ball of radius `r`. The normal leads from the
projection of the centre to the centre, and the other way if the centre is inside. A centre that
cannot be told from its projection lies on it. There is no contact if the ball does not know the
normal. -/
def projected (s : Part) (pos12 : Pose Float) (r : Float) : Option Manifold :=
  let c := pos12.origin
  let t := s.project c
  let (outward, size) := ((c - t.point).direction? 0).getD (directionOr c .unitX, 0)
  let n := if t.isInside then -outward else outward
  let dist := if t.isInside then -size else size
  let n2 := pos12.rotation.conjugate.rotate (-n)
  if dist ≤ r && n2.eq n2 then
    some { normal1 := n, points := [⟨t.point, n2.scale r, dist - r⟩] }
  else none

/-- A half-space and the low corners of a part. -/
def halfSpace (pos12 : Pose Float) (n : Vec3 Float) (s : Part) : Option Manifold := do
  let patch ← s.patch? (-(pos12.rotation.conjugate.rotate n))
  return {
    normal1 := n
    points := patch.filterMap fun v =>
      let w := pos12.apply v
      let d := w.dot n
      if d ≤ 0 then some ⟨w - n.scale d, v, d⟩ else none }

/-- The points where two patches lie on each other along `n`, the second one seen from the first. -/
def facing (back : Vec3 Float → Vec3 Float) (n : Vec3 Float) (f g : Patch) : List ManifoldPoint :=
  (Patch.contacts n f g).map fun (p, q, d) => ⟨p, back q, d⟩

/-- A cuboid and another part with corners, given the gaps between them. -/
def separated (pos12 : Pose Float) (h : Vec3 Float) (s : Part) (g : Separation.Gaps) :
    Option Manifold := do
  if 0 < g.first.size ∨ 0 < g.second.size ∨ 0 < g.edges.size then none
  else
    let n := g.direction pos12
    let patch ← s.patch? (pos12.rotation.conjugate.rotate (-n))
    return {
      normal1 := n
      points := facing pos12.unapply n (Part.cuboidPatch h n) (patch.map pos12.apply) }

/-- Two parts with corners: the points where their patches lie on each other, and the nearest points
or the deepest ones. -/
def convex (pos12 : Pose Float) (s t : Part) : Option Manifold := do
  let u ← s.support?
  let v ← t.support?
  let found : Option (Vec3 Float × Vec3 Float × Vec3 Float) :=
    match Convex.positionAt pos12 u v with
    | .apart => none
    | .touching p q n => some (p, q, n)
    | .overlapping simplex =>
      Expansion.shortest? (Convex.difference u (Convex.place pos12 v)) simplex
  let (p, q, n) ← found
  let patch1 ← s.patch? n
  let patch2 ← t.patch? (pos12.rotation.conjugate.rotate (-n))
  return {
    normal1 := n
    points := facing pos12.unapply n patch1 (patch2.map pos12.apply) ++
      [⟨p, pos12.unapply q, (q - p).dot n⟩] }

/-- The manifold of two parts, if they come near each other. -/
def parts? (pos12 : Pose Float) : Part → Part → Option Manifold
  | .ball r1, .ball r2 => balls pos12 r1 r2
  | .cuboid h, .cuboid k => separated pos12 h (.cuboid k) (Separation.cuboidGaps h k pos12)
  | s, .ball r => projected s pos12 r
  | .ball r, s => (projected s pos12.inverse r).map (·.exchange pos12.inverse)
  | .cuboid h, .facet f =>
    separated pos12 h (.facet f) (Separation.cuboidFacetGaps h f pos12 pos12.inverse)
  | .facet f, .cuboid h =>
    (separated pos12.inverse h (.facet f)
      (Separation.cuboidFacetGaps h f pos12.inverse pos12)).map (·.exchange pos12.inverse)
  | .halfSpace n, s => halfSpace pos12 n s
  | s, .halfSpace n => (halfSpace pos12.inverse n s).map (·.exchange pos12.inverse)
  | s, t => convex pos12 s t

/-- A box with a margin of a tenth of its size on every side, and never more than a tenth. -/
def withMargin (b : Bounds Float) : Bounds Float :=
  let margin := (b.high - b.low).map fun e => Scalar.least (e / 10) 0.1
  ⟨b.low - margin, b.high + margin⟩

/-- The facets of a mesh that may touch what lies in a box. -/
def near (t : BoxTree (Facet Float)) (box : Bounds Float) : List (Facet Float) :=
  t.candidates fun b => b.overlaps box

/-- The manifolds of two meshes. The facets of the one with the larger box are taken in turn, and
each of them is compared with the facets of the other. -/
def meshes (pos12 : Pose Float) (s t : BoxTree (Facet Float)) : List Manifold :=
  let back := pos12.inverse
  if s.box.halfExtents.normSq < t.box.halfExtents.normSq then
    (near t (s.box.transform back)).flatMap fun g =>
      (near s (g.place pos12).bounds).filterMap fun f => parts? pos12 (.facet f) (.facet g)
  else
    (near s (t.box.transform pos12)).flatMap fun f =>
      (near t (f.place back).bounds).filterMap fun g => parts? back.inverse (.facet f) (.facet g)

/-- The manifolds of two solids. Two half-spaces have no rule. -/
def solids (pos12 : Pose Float) (s t : Solid Float) : Option (List Manifold) :=
  match s, t with
  | .halfSpace _, .halfSpace _ => none
  | .surface vs ts, .surface ws us => do
    return meshes pos12 (← Solid.tree? vs ts) (← Solid.tree? ws us)
  | .surface vs ts, t => do
    let tree ← Solid.tree? vs ts
    let part ← t.part?
    return (near tree (withMargin (part.bounds pos12))).filterMap fun f =>
      parts? pos12 (.facet f) part
  | s, .surface vs ts => do
    let tree ← Solid.tree? vs ts
    let part ← s.part?
    let back := pos12.inverse
    return (near tree (withMargin (part.bounds back))).filterMap fun f =>
      parts? back.inverse part (.facet f)
  | s, t => do return (parts? pos12 (← s.part?) (← t.part?)).toList

end ManifoldRule

end Clearance
