import Clearance.Space.Vec3

/-! Rigid poses: a rotation by a quaternion, then a shift to a new origin. A quaternion is used as
it is given and never brought to length one. -/

namespace Clearance

/-- The quaternion `x i + y j + z k + w`. -/
structure Quaternion (α : Type) where
  x : α
  y : α
  z : α
  w : α
  deriving DecidableEq

namespace Quaternion

variable {α : Type} [Scalar α]

def identity : Quaternion α := ⟨Scalar.zero, Scalar.zero, Scalar.zero, Scalar.one⟩

def imaginary (q : Quaternion α) : Vec3 α := ⟨q.x, q.y, q.z⟩

/-- The opposite rotation, for a quaternion of length one. -/
def conjugate (q : Quaternion α) : Quaternion α := ⟨-q.x, -q.y, -q.z, q.w⟩

instance : Mul (Quaternion α) where
  mul p q :=
    ⟨p.w * q.x + p.x * q.w + p.y * q.z - p.z * q.y,
      p.w * q.y - p.x * q.z + p.y * q.w + p.z * q.x,
      p.w * q.z + p.x * q.y - p.y * q.x + p.z * q.w,
      p.w * q.w - p.x * q.x - p.y * q.y - p.z * q.z⟩

/-- Turns a vector: `2 (u × v) w + u × 2 (u × v) + v` for the imaginary part `u`. -/
def rotate (q : Quaternion α) (v : Vec3 α) : Vec3 α :=
  let t := (q.imaginary.cross v).scale Scalar.two
  t.scale q.w + q.imaginary.cross t + v

/-- The quarter turn about the `x` axis that takes `y` to `z`. -/
def quarterTurnX : Quaternion α := ⟨Scalar.sinEighth, Scalar.zero, Scalar.zero, Scalar.cosEighth⟩

end Quaternion

/-- Three rows of three numbers. -/
abbrev Matrix3 (α : Type) := Vec3 (Vec3 α)

namespace Matrix3

variable {α : Type} [Scalar α]

def apply (m : Matrix3 α) (v : Vec3 α) : Vec3 α := m.map fun row => row.dot v

def abs (m : Matrix3 α) : Matrix3 α := m.map Vec3.abs

/-- The matrix of the rotation by a quaternion of length one. -/
def ofQuaternion (q : Quaternion α) : Matrix3 α :=
  let ww := q.w * q.w
  let ii := q.x * q.x
  let jj := q.y * q.y
  let kk := q.z * q.z
  let ij := q.x * q.y * Scalar.two
  let wk := q.w * q.z * Scalar.two
  let wj := q.w * q.y * Scalar.two
  let ik := q.x * q.z * Scalar.two
  let jk := q.y * q.z * Scalar.two
  let wi := q.w * q.x * Scalar.two
  ⟨⟨ww + ii - jj - kk, ij - wk, wj + ik⟩,
    ⟨wk + ij, ww - ii + jj - kk, jk - wi⟩,
    ⟨ik - wj, wi + jk, ww - ii - jj + kk⟩⟩

/-- The quaternion of a rotation matrix, computed from its largest component so that nothing small
is divided by. -/
def toQuaternion (m : Matrix3 α) : Quaternion α :=
  let quarter : α := Scalar.ofNat 1 / Scalar.ofNat 4
  let trace := m.x.x + m.y.y + m.z.z
  if Scalar.lt Scalar.zero trace then
    let s := Scalar.sqrt (trace + Scalar.one) * Scalar.two
    ⟨(m.z.y - m.y.z) / s, (m.x.z - m.z.x) / s, (m.y.x - m.x.y) / s, quarter * s⟩
  else if Scalar.lt m.y.y m.x.x && Scalar.lt m.z.z m.x.x then
    let s := Scalar.sqrt (Scalar.one + m.x.x - m.y.y - m.z.z) * Scalar.two
    ⟨quarter * s, (m.x.y + m.y.x) / s, (m.x.z + m.z.x) / s, (m.z.y - m.y.z) / s⟩
  else if Scalar.lt m.z.z m.y.y then
    let s := Scalar.sqrt (Scalar.one + m.y.y - m.x.x - m.z.z) * Scalar.two
    ⟨(m.x.y + m.y.x) / s, quarter * s, (m.y.z + m.z.y) / s, (m.x.z - m.z.x) / s⟩
  else
    let s := Scalar.sqrt (Scalar.one + m.z.z - m.x.x - m.y.y) * Scalar.two
    ⟨(m.x.z + m.z.x) / s, (m.y.z + m.z.y) / s, quarter * s, (m.y.x - m.x.y) / s⟩

end Matrix3

/-- Where a body stands: points are rotated first and then shifted to the origin. -/
structure Pose (α : Type) where
  origin : Vec3 α
  rotation : Quaternion α
  deriving DecidableEq

namespace Pose

variable {α : Type} [Scalar α]

def identity : Pose α := ⟨Vec3.zero, Quaternion.identity⟩

def shift (t : Vec3 α) : Pose α := ⟨t, Quaternion.identity⟩

def turn (q : Quaternion α) : Pose α := ⟨Vec3.zero, q⟩

/-- The pose that applies the second one first. -/
instance : Mul (Pose α) where
  mul p q := ⟨p.origin + p.rotation.rotate q.origin, p.rotation * q.rotation⟩

def apply (p : Pose α) (v : Vec3 α) : Vec3 α := p.rotation.rotate v + p.origin

/-- The point that `p` takes to `v`, for a rotation of length one. -/
def unapply (p : Pose α) (v : Vec3 α) : Vec3 α := p.rotation.conjugate.rotate (v - p.origin)

def inverse (p : Pose α) : Pose α :=
  let q := p.rotation.conjugate
  ⟨q.rotate (-p.origin), q⟩

/-- The pose of `q` seen from `p`. -/
def relative (p q : Pose α) : Pose α :=
  let r := p.rotation.conjugate
  ⟨r.rotate (q.origin - p.origin), r * q.rotation⟩

end Pose

/-- Three rows of a rigid placement: a rotation and, in the last column, the origin. -/
structure Placement (α : Type) where
  rotation : Matrix3 α
  origin : Vec3 α

namespace Placement

variable {α : Type} [Scalar α]

def toPose (m : Placement α) : Pose α := ⟨m.origin, m.rotation.toQuaternion⟩

def ofPose (p : Pose α) : Placement α := ⟨Matrix3.ofQuaternion p.rotation, p.origin⟩

/-- Four rows of four numbers, the last one `0 0 0 1`. -/
def rows (m : Placement α) : List (List α) :=
  let row (r : Vec3 α) (t : α) := r.toList ++ [t]
  [row m.rotation.x m.origin.x, row m.rotation.y m.origin.y,
    row m.rotation.z m.origin.z,
    [Scalar.zero, Scalar.zero, Scalar.zero, Scalar.one]]

end Placement

end Clearance
