import Clearance.Space.Vec3

/-! Shapes of bodies as a robot or scene description gives them, each centred in a frame of its own.
Cylinders and cones stand along `z`, lengths are full lengths, and a plane is solid on the side its
normal points away from. -/

namespace Clearance

inductive ShapeKind where
  | sphere | box | cylinder | cone | plane | mesh
  deriving DecidableEq

def ShapeKind.name : ShapeKind → String
  | .sphere => "Sphere"
  | .box => "Box"
  | .cylinder => "Cylinder"
  | .cone => "Cone"
  | .plane => "Plane"
  | .mesh => "Mesh"

/-- Three positions in a list of vertices. -/
structure Triangle where
  a : UInt32
  b : UInt32
  c : UInt32
  deriving DecidableEq

def Triangle.toList (t : Triangle) : List UInt32 := [t.a, t.b, t.c]

inductive Shape (α : Type) where
  | sphere (radius : α)
  | box (size : Vec3 α)
  | cylinder (radius length : α)
  | cone (radius length : α)
  /-- The plane of the points `p` with `normal · p + offset = 0`. -/
  | plane (normal : Vec3 α) (offset : α)
  | mesh (vertices : List (Vec3 α)) (triangles : List Triangle)
  deriving DecidableEq

namespace Shape

variable {α : Type}

def kind : Shape α → ShapeKind
  | sphere _ => .sphere
  | box _ => .box
  | cylinder _ _ => .cylinder
  | cone _ _ => .cone
  | plane _ _ => .plane
  | mesh _ _ => .mesh

end Shape

end Clearance
