import Clearance.Shape.Basic
import Clearance.Shape.BoxTree

/-! Solids that contacts are computed between. They hold half lengths and unit normals, and their
cylinders stand along `y`. -/

namespace Clearance

inductive Solid (α : Type) where
  | ball (radius : α)
  | cuboid (half : Vec3 α)
  | cylinder (halfHeight radius : α)
  /-- The points `p` with `normal · p ≤ 0`. -/
  | halfSpace (normal : Vec3 α)
  /-- The surface of a mesh, with nothing inside. -/
  | surface (vertices : List (Vec3 α)) (triangles : List Triangle)
  deriving DecidableEq

/-- A triangle in space. -/
structure Facet (α : Type) where
  a : Vec3 α
  b : Vec3 α
  c : Vec3 α

namespace Facet

variable {α : Type} [Scalar α]

def ofTriangle? (vs : List (Vec3 α)) (t : Triangle) : Option (Facet α) := do
  return ⟨← vs[t.a.toNat]?, ← vs[t.b.toNat]?, ← vs[t.c.toNat]?⟩

def bounds (f : Facet α) : Bounds α := .ofTriangle f.a f.b f.c

def place (f : Facet α) (p : Pose α) : Facet α := ⟨p.apply f.a, p.apply f.b, p.apply f.c⟩

/-- The corner that lies farthest in a direction, the last one of several. -/
def support (f : Facet α) (d : Vec3 α) : Vec3 α :=
  let further (u v : Vec3 α) := if Scalar.lt (v.dot d) (u.dot d) then u else v
  further (further f.a f.b) f.c

end Facet

namespace Solid

variable {α : Type} [Scalar α]

/-- The triangles of a mesh by their corners. -/
def facets (vs : List (Vec3 α)) (ts : List Triangle) : List (Facet α) :=
  ts.filterMap (Facet.ofTriangle? vs)

/-- The point of a cylinder along `y` that lies farthest in direction `d`. -/
def cylinderSupport (halfHeight radius : α) (d : Vec3 α) : Vec3 α :=
  let flat : Vec3 α := ⟨d.x, Scalar.zero, d.z⟩
  let n := flat.norm
  let rim := if Scalar.eq n Scalar.zero then Vec3.zero else (flat.divBy n).scale radius
  ⟨rim.x, Scalar.withSign halfHeight d.y, rim.z⟩

def cuboidSupport (half d : Vec3 α) : Vec3 α := half.zipWith Scalar.withSign d

/-- The box of a solid given by its farthest points, at a pose. -/
def supportBounds (support : Vec3 α → Vec3 α) (p : Pose α) : Bounds α :=
  let far (s : α) (i : Axis) : α :=
    (p.apply (support (p.rotation.conjugate.rotate (i.vector s)))).along i
  ⟨⟨far (-Scalar.one) .x, far (-Scalar.one) .y, far (-Scalar.one) .z⟩,
    ⟨far Scalar.one .x, far Scalar.one .y, far Scalar.one .z⟩⟩

/-- The facets of a mesh in a tree of their boxes. -/
def tree? (vs : List (Vec3 Float)) (ts : List Triangle) : Option (BoxTree (Facet Float)) :=
  BoxTree.ofList? ((facets vs ts).map fun f => (f.bounds, f))

/-- Half of the largest double, the reach of what has no end. -/
def reach : Float := Scalar.largest / 2

/-- The box of the solid at a pose. A half-space fills the whole world. -/
def bounds (s : Solid Float) (p : Pose Float) : Bounds Float :=
  match s with
  | ball r => .around p.origin ⟨r, r, r⟩
  | cuboid h => .around p.origin ((Matrix3.ofQuaternion p.rotation).abs.apply h)
  | cylinder hh r => supportBounds (cylinderSupport hh r) p
  | halfSpace _ => ⟨⟨-reach, -reach, -reach⟩, ⟨reach, reach, reach⟩⟩
  | surface vs ts => ((tree? vs ts).elim .hollow BoxTree.box).transform p

end Solid

end Clearance
