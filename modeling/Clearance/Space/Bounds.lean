import Clearance.Space.Pose

/-! Boxes along the axes, given by their lowest and highest corner. Two boxes overlap when no axis
separates them; shared faces count, and a coordinate that is no number separates. -/

namespace Clearance

structure Bounds (α : Type) where
  low : Vec3 α
  high : Vec3 α
  deriving DecidableEq

namespace Bounds

variable {α : Type} [Scalar α]

/-- The box of points at most `h` away from `c` along each axis. -/
def around (c h : Vec3 α) : Bounds α := ⟨c - h, c + h⟩

/-- Whether each coordinate of `u` is at most that of `v`. -/
def below (u v : Vec3 α) : Bool :=
  Scalar.le u.x v.x && Scalar.le u.y v.y && Scalar.le u.z v.z

def overlaps (a b : Bounds α) : Bool := below a.low b.high && below b.low a.high

theorem overlaps_comm (a b : Bounds α) : a.overlaps b = b.overlaps a := Bool.and_comm ..

def center (b : Bounds α) : Vec3 α := b.low.midpoint b.high

def halfExtents (b : Bounds α) : Vec3 α := (b.high - b.low).scale Scalar.half

/-- The smallest box that holds three points. A coordinate that is no number is left out. -/
def ofTriangle (a b c : Vec3 α) : Bounds α :=
  ⟨(a.zipWith Scalar.least b).zipWith Scalar.least c,
    (a.zipWith Scalar.greatest b).zipWith Scalar.greatest c⟩

/-- The smallest box that holds both. -/
def union (a b : Bounds α) : Bounds α :=
  ⟨a.low.zipWith Scalar.min b.low, a.high.zipWith Scalar.max b.high⟩

/-- The smallest box that holds a box and a point. A coordinate of the point that is no number is
left out. -/
def holding (b : Bounds α) (v : Vec3 α) : Bounds α :=
  ⟨v.zipWith Scalar.min b.low, v.zipWith Scalar.max b.high⟩

/-- The smallest box around the box carried along by `p`. -/
def transform (b : Bounds α) (p : Pose α) : Bounds α :=
  around (p.apply b.center) ((Matrix3.ofQuaternion p.rotation).abs.apply b.halfExtents)

end Bounds

end Clearance
