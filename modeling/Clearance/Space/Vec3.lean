import Clearance.Space.Scalar

/-! Vectors of three coordinates. Sums are taken from the first coordinate to the last, so a norm is
`√((x² + y²) + z²)` on every number type. -/

namespace Clearance

structure Vec3 (α : Type) where
  x : α
  y : α
  z : α
  deriving DecidableEq

inductive Axis where
  | x | y | z
  deriving DecidableEq

namespace Vec3

variable {α : Type}

def along (v : Vec3 α) : Axis → α
  | .x => v.x
  | .y => v.y
  | .z => v.z

/-- The same vector but for its coordinate along one axis. -/
def put (v : Vec3 α) (a : α) : Axis → Vec3 α
  | .x => { v with x := a }
  | .y => { v with y := a }
  | .z => { v with z := a }

def map {β : Type} (f : α → β) (v : Vec3 α) : Vec3 β := ⟨f v.x, f v.y, f v.z⟩

def zipWith {β γ : Type} (f : α → β → γ) (u : Vec3 α) (v : Vec3 β) : Vec3 γ :=
  ⟨f u.x v.x, f u.y v.y, f u.z v.z⟩

def toList (v : Vec3 α) : List α := [v.x, v.y, v.z]

variable [Scalar α]

def zero : Vec3 α := ⟨Scalar.zero, Scalar.zero, Scalar.zero⟩

instance : Add (Vec3 α) := ⟨zipWith (· + ·)⟩

instance : Sub (Vec3 α) := ⟨zipWith (· - ·)⟩

instance : Neg (Vec3 α) := ⟨map (- ·)⟩

def scale (v : Vec3 α) (s : α) : Vec3 α := v.map (· * s)

def divBy (v : Vec3 α) (s : α) : Vec3 α := v.map (· / s)

def dot (u v : Vec3 α) : α := u.x * v.x + u.y * v.y + u.z * v.z

def cross (u v : Vec3 α) : Vec3 α :=
  ⟨u.y * v.z - u.z * v.y, u.z * v.x - u.x * v.z, u.x * v.y - u.y * v.x⟩

def normSq (v : Vec3 α) : α := v.dot v

def norm (v : Vec3 α) : α := Scalar.sqrt v.normSq

/-- The direction of `v`, with length one unless `v` is zero. -/
def normalize (v : Vec3 α) : Vec3 α := v.divBy v.norm

/-- The direction and the length of a vector that is longer than `least`. -/
def direction? (v : Vec3 α) (least : α) : Option (Vec3 α × α) :=
  if Scalar.lt (least * least) v.normSq then some (v.normalize, v.norm) else none

def abs (v : Vec3 α) : Vec3 α := v.map Scalar.abs

def midpoint (u v : Vec3 α) : Vec3 α := (u + v).scale Scalar.half

def isFinite (v : Vec3 α) : Bool := v.toList.all Scalar.isFinite

/-- Equality coordinate by coordinate, as numbers. -/
def eq (u v : Vec3 α) : Bool := Scalar.eq u.x v.x && Scalar.eq u.y v.y && Scalar.eq u.z v.z

def unitX : Vec3 α := ⟨Scalar.one, Scalar.zero, Scalar.zero⟩

def unitY : Vec3 α := ⟨Scalar.zero, Scalar.one, Scalar.zero⟩

def unitZ : Vec3 α := ⟨Scalar.zero, Scalar.zero, Scalar.one⟩

end Vec3

namespace Axis

def all : List Axis := [.x, .y, .z]

/-- The axis after this one, in a circle. -/
def next : Axis → Axis
  | .x => .y
  | .y => .z
  | .z => .x

/-- The first axis along which no coordinate is larger. A coordinate that is no number is larger
than none. -/
def widest {α : Type} [Scalar α] (v : Vec3 α) : Axis :=
  let i := if Scalar.lt v.x v.y then .y else .x
  if Scalar.lt (v.along i) v.z then .z else i

/-- The vector of length `s` along an axis. -/
def vector {α : Type} [Scalar α] (s : α) : Axis → Vec3 α
  | .x => ⟨s, Scalar.zero, Scalar.zero⟩
  | .y => ⟨Scalar.zero, s, Scalar.zero⟩
  | .z => ⟨Scalar.zero, Scalar.zero, s⟩

end Axis

end Clearance
