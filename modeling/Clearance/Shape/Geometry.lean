import Clearance.Log
import Clearance.Shape.Scaling
import Clearance.Shape.Solid
import Clearance.Number.Shortest

/-! From a shape to the solid that stands for it. The shape is checked, the first defect in reading
order is reported, and an offset takes the frame of the solid to the frame of the shape. -/

namespace Clearance

/-- Why a shape has no solid. -/
inductive ShapeDefect (α : Type) where
  | unsupported (kind : ShapeKind)
  | badDimension (kind : ShapeKind) (value : α)
  | degeneratePlane (normal : Vec3 α)
  | vertexOutOfRange (triangle : Nat) (vertex : UInt32) (vertexCount : Nat)
  | noTriangles
  deriving DecidableEq

namespace ShapeDefect

def message : ShapeDefect Float → String
  | unsupported k => s!"this shape type ({k.name}) is not supported for collision checking."
  | badDimension k v => s!"the {k.name} has an invalid dimension: {number v}."
  | degeneratePlane n =>
    s!"the plane normal ({number n.x}, {number n.y}, {number n.z}) is degenerate."
  | vertexOutOfRange t v n =>
    s!"the triangle {t} references the vertex {v} but the mesh only has {n} vertices."
  | noTriangles => "invalid triangle mesh: A triangle mesh must contain at least one triangle."
where
  number (x : Float) : String := Number.shortestText .plain x

end ShapeDefect

/-- A solid with its place in the frame of the shape it was made from. -/
structure Geometry (α : Type) where
  solid : Solid α
  offset : Pose α
  kind : ShapeKind
  deriving DecidableEq

namespace Geometry

variable {α : Type} [Scalar α]

/-- Where the solid stands when the frame of the shape stands at `p`. -/
def solidPose (g : Geometry α) (p : Pose α) : Pose α := p * g.offset

def bounds (g : Geometry Float) (p : Pose Float) : Bounds Float := g.solid.bounds (g.solidPose p)

def describe (g : Geometry Float) : String :=
  let list (xs : List Float) :=
    "[" ++ String.intercalate ", " (xs.map (Number.shortestText .detailed)) ++ "]"
  let q := g.offset.rotation
  "CollisionGeometry \x7b kind: " ++ g.kind.name ++
    ", local_pose: Isometry \x7b rotation: " ++ list [q.x, q.y, q.z, q.w] ++
    ", translation: " ++ list g.offset.origin.toList ++ " \x7d, .. \x7d"

end Geometry

/-- What building a geometry came to, and what was logged on the way. -/
structure Construction (α : Type) where
  outcome : Except (ShapeDefect α) (Geometry α)
  log : List LogLine

def Construction.ok {α : Type} (g : Geometry α) : Construction α := ⟨.ok g, []⟩

def Construction.defect {α : Type} (d : ShapeDefect α) : Construction α := ⟨.error d, []⟩

/-- The construction of a shape of a kind that has no solid. -/
def Construction.unsupported {α : Type} (k : ShapeKind) : Construction α where
  outcome := .error (.unsupported k)
  log := [⟨.error, s!"This shape type ({k.name}) is not supported for collision checking."⟩]

namespace Shape

variable {α : Type} [Scalar α]

/-- Whether a number can be a length. -/
def isDimension (x : α) : Bool := Scalar.isFinite x && Scalar.le Scalar.zero x

/-- The first of the numbers that cannot be a length. -/
def badDimension? (xs : List α) : Option α := xs.find? fun x => !isDimension x

/-- The first triangle, counted from `i`, that names a vertex beyond the first `n`, with that
vertex. -/
def strayVertex? (n : Nat) : Nat → List Triangle → Option (Nat × UInt32)
  | _, [] => none
  | i, t :: ts =>
    match t.toList.find? fun v => n ≤ v.toNat with
    | some v => some (i, v)
    | none => strayVertex? n (i + 1) ts

/-- Whether a plane has no usable normal or place: its squared length must be finite and more than
the square of `Scalar.epsilon`, and the offset finite. -/
def isDegeneratePlane (normal : Vec3 α) (offset : α) : Bool :=
  let sq := normal.normSq
  !Scalar.isFinite sq || Scalar.le sq (Scalar.epsilon * Scalar.epsilon) || !Scalar.isFinite offset

/-- A geometry unless one of the numbers cannot be a length. -/
def ofDimensions (kind : ShapeKind) (dims : List α) (g : Geometry α) : Construction α :=
  match badDimension? dims with
  | some x => .defect (.badDimension kind x)
  | none => .ok g

/-- Builds the geometry of the shape as it is. A half-space goes through the point of its plane that
lies nearest to the origin. -/
def buildAsIs : Shape α → Construction α
  | sphere r => ofDimensions .sphere [r] ⟨.ball r, .identity, .sphere⟩
  | box s => ofDimensions .box s.toList ⟨.cuboid (s.divBy Scalar.two), .identity, .box⟩
  | cylinder r l =>
    ofDimensions .cylinder [r, l]
      ⟨.cylinder (l / Scalar.two) r, .turn Quaternion.quarterTurnX, .cylinder⟩
  | plane n d =>
    if isDegeneratePlane n d then .defect (.degeneratePlane n)
    else .ok ⟨.halfSpace n.normalize, .shift (n.scale (-d / n.normSq)), .plane⟩
  | mesh vs ts =>
    match strayVertex? vs.length 0 ts with
    | some (t, v) => .defect (.vertexOutOfRange t v vs.length)
    | none => if ts.isEmpty then .defect .noTriangles else .ok ⟨.surface vs ts, .identity, .mesh⟩
  | cone _ _ => .unsupported .cone

/-- The shape that a scale and a margin ask for: the shape itself when the scale is one and the
margin zero up to `Scalar.epsilon`. -/
def adjusted (s : Shape α) (factor margin : α) : Shape α :=
  if Scalar.near factor Scalar.one Scalar.epsilon && Scalar.near margin Scalar.zero Scalar.epsilon
  then s else s.scalePad factor margin

/-- Builds the geometry of the shape scaled by `factor` and grown by `margin`. -/
def build (s : Shape α) (factor margin : α) : Construction α := (s.adjusted factor margin).buildAsIs

end Shape

end Clearance
