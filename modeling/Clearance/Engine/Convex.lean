import Clearance.Engine.Nearest
import Clearance.Space.Pose

/-! How two convex bodies lie to each other. The differences of their points make up a body again,
and the two overlap iff it holds the origin. A simplex of such differences is moved towards the
origin until it holds the origin, comes no nearer, or a plane is met that has the origin on one side
and all differences on the other. -/

namespace Clearance.Convex

/-- A convex body, as the point of it that lies farthest in a direction. -/
abbrev Support := Vec3 Float → Vec3 Float

/-- The body carried along by a pose. -/
def place (p : Pose Float) (s : Support) : Support := fun d =>
  p.apply (s (p.rotation.conjugate.rotate d))

/-- The farthest difference of the points of two bodies. -/
def difference (s t : Support) (d : Vec3 Float) : Difference :=
  let u := s d
  let v := t (-d)
  ⟨u - v, u, v⟩

/-- How two bodies lie. Bodies whose overlap comes out as no more than rounding are told by points
near each other and the direction from the first to the second. -/
inductive Position where
  | overlapping (simplex : Simplex Difference)
  | touching (point1 point2 direction : Vec3 Float)
  | apart

/-- How far a simplex has come. -/
structure Approach where
  nearest : Nearest
  previous : Simplex Share
  direction : Vec3 Float
  distance : Float

/-- Points near each other, from the shares of their differences. -/
def Position.near (s : Simplex Share) (direction : Vec3 Float) : Position :=
  let (u, v) := Nearest.blend s
  .touching u v direction

/-- Moves the simplex towards the origin at most `fuel` times. -/
def approach (s t : Support) : Nat → Approach → Position
  | 0, _ => .apart
  | fuel + 1, a =>
    let here := a.nearest.carrier
    match (-a.nearest.point).direction? Simplex.tolerance with
    | none => .overlapping (here.map (·.1))
    | some (direction, distance) =>
      if a.distance ≤ distance then .near a.previous a.direction
      else
        let p := difference s t direction
        if 0 < -(direction.dot p.point) then .apart
        else
          match (here.map (·.1)).add? p with
          | none => .near here direction
          | some simplex =>
            let nearest := Nearest.ofSimplex simplex
            match nearest.carrier with
            | .tetrahedron .. => .overlapping simplex
            | _ => approach s t fuel ⟨nearest, here, direction, distance⟩

/-- The position of two bodies, searched from a first direction. -/
def position (s t : Support) (first : Vec3 Float) : Position :=
  let p := difference s t first
  match (-p.point).direction? 0 with
  | none => .overlapping (.point p)
  | some (direction, _) =>
    approach s t 100 ⟨.onPoint p, .point (p, 0), direction, Scalar.largest⟩

/-- The direction in which the second body lies, or along `x` if they have one place. -/
def firstDirection (p : Pose Float) : Vec3 Float :=
  match p.origin.direction? Scalar.epsilon with
  | some (d, _) => d
  | none => .unitX

/-- The position of two bodies, the second one at `p`. -/
def positionAt (p : Pose Float) (s t : Support) : Position :=
  position s (place p t) (firstDirection p)

/-- Whether two bodies overlap, the second one at `p`. -/
def overlap (p : Pose Float) (s t : Support) : Bool :=
  match positionAt p s t with
  | .overlapping _ => true
  | _ => false

end Clearance.Convex
