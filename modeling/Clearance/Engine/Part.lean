import Clearance.Engine.Convex
import Clearance.Engine.Patch
import Clearance.Engine.Projection

/-! The parts that solids are made of: a mesh is made of its facets, and every other solid is one
part. A part is convex. It is known by its farthest points and by the patches of its boundary. -/

namespace Clearance

inductive Part where
  | ball (radius : Float)
  | cuboid (half : Vec3 Float)
  | cylinder (halfHeight radius : Float)
  | halfSpace (normal : Vec3 Float)
  | facet (facet : Facet Float)

namespace Part

/-- The farthest points of a part that has an end everywhere. -/
def support? : Part → Option Convex.Support
  | ball r => some fun d => d.normalize.scale r
  | cuboid h => some (Solid.cuboidSupport h)
  | cylinder hh r => some (Solid.cylinderSupport hh r)
  | halfSpace _ => none
  | facet f => some f.support

/-- The box of a part at a pose. -/
def bounds (p : Pose Float) : Part → Bounds Float
  | ball r => (Solid.ball r).bounds p
  | cuboid h => (Solid.cuboid h).bounds p
  | cylinder hh r => (Solid.cylinder hh r).bounds p
  | halfSpace n => (Solid.halfSpace n).bounds p
  | facet f => (f.place p).bounds

/-- The point of a part nearest to a point. -/
def project (c : Vec3 Float) : Part → Projection
  | ball r => ⟨(c.divBy c.norm).scale r, c.normSq ≤ r * r⟩
  | cuboid h => Projection.ontoCuboid h c
  | cylinder hh r => Projection.ontoCylinder hh r c
  | halfSpace n => Projection.ontoHalfSpace n c
  | facet f => Projection.ontoFacet f c

/-! ### Patches -/

/-- The face of a cuboid that lies farthest in a direction. -/
def cuboidPatch (h e : Vec3 Float) : Patch :=
  let i := Axis.widest e.abs
  let side := Scalar.withSign 1 (e.along i)
  match i with
  | .x =>
    let x := h.x * side
    [⟨x, h.y, h.z⟩, ⟨x, -h.y, h.z⟩, ⟨x, -h.y, -h.z⟩, ⟨x, h.y, -h.z⟩]
  | .y =>
    let y := h.y * side
    [⟨h.x, y, h.z⟩, ⟨-h.x, y, h.z⟩, ⟨-h.x, y, -h.z⟩, ⟨h.x, y, -h.z⟩]
  | .z =>
    let z := h.z * side
    [⟨h.x, h.y, z⟩, ⟨h.x, -h.y, z⟩, ⟨-h.x, -h.y, z⟩, ⟨-h.x, h.y, z⟩]

/-- The line on the side of a cylinder that lies farthest in a direction, or the square between four
points of the rim of an end if the direction leads rather there. -/
def cylinderPatch (halfHeight radius : Float) (e : Vec3 Float) : Patch :=
  let out := ((⟨e.x, e.z⟩ : Shadow).direction?).getD ⟨1, 0⟩
  if e.y.abs < 0.5 then
    [⟨out.x * radius, -halfHeight, out.y * radius⟩, ⟨out.x * radius, halfHeight, out.y * radius⟩]
  else
    let y := Scalar.withSign halfHeight e.y
    [⟨out.x * radius, y, out.y * radius⟩, ⟨-out.y * radius, y, out.x * radius⟩,
      ⟨-out.x * radius, y, -out.y * radius⟩, ⟨out.y * radius, y, -out.x * radius⟩]

/-- The patch of the boundary of a part that faces a direction. Balls and half-spaces have none. -/
def patch? (e : Vec3 Float) : Part → Option Patch
  | cuboid h => some (cuboidPatch h e)
  | cylinder hh r => some (cylinderPatch hh r e)
  | facet f => some [f.a, f.b, f.c]
  | ball _ | halfSpace _ => none

end Part

/-- The part that a solid other than a mesh is. -/
def Solid.part? : Solid Float → Option Part
  | .ball r => some (.ball r)
  | .cuboid h => some (.cuboid h)
  | .cylinder hh r => some (.cylinder hh r)
  | .halfSpace n => some (.halfSpace n)
  | .surface _ _ => none

end Clearance
