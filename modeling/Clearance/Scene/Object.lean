import Clearance.Body.Basic
import Clearance.Shape.Geometry

/-! Objects: the geometry of a body placed in the world, with its box. Objects are told apart by a
serial number, so a moved copy of an object is another object. -/

namespace Clearance

structure Object where
  serial : Nat
  body : Body
  geometry : Geometry Float
  pose : Pose Float
  bounds : Bounds Float

namespace Object

def make (serial : Nat) (body : Body) (g : Geometry Float) (p : Pose Float) : Object :=
  ⟨serial, body, g, p, g.bounds p⟩

/-- The object at the pose that a placement describes. -/
def place (serial : Nat) (body : Body) (g : Geometry Float) (m : Placement Float) : Object :=
  make serial body g m.toPose

/-- The object at another pose, as the object with the given serial number. -/
def moved (o : Object) (serial : Nat) (p : Pose Float) : Object := make serial o.body o.geometry p

/-- The same content as another object. -/
def copy (o : Object) (serial : Nat) : Object := { o with serial }

def id (o : Object) : BodyId := o.body.id

/-- Where the solid of the object stands. -/
def solidPose (o : Object) : Pose Float := o.geometry.solidPose o.pose

def solid (o : Object) : Solid Float := o.geometry.solid

end Object

end Clearance
