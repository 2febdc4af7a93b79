import Clearance.Space.Vec3

/-! Simplices of differences between the points of two bodies. A simplex takes a new corner only if
it gains a dimension by it. -/

namespace Clearance

/-- A point of the one body less a point of the other. -/
structure Difference where
  point : Vec3 Float
  first : Vec3 Float
  second : Vec3 Float

inductive Simplex (κ : Type) where
  | point (a : κ)
  | segment (a b : κ)
  | triangle (a b c : κ)
  | tetrahedron (a b c d : κ)

namespace Simplex

variable {κ : Type}

def corners : Simplex κ → List κ
  | point a => [a]
  | segment a b => [a, b]
  | triangle a b c => [a, b, c]
  | tetrahedron a b c d => [a, b, c, d]

def map {ι : Type} (f : κ → ι) : Simplex κ → Simplex ι
  | point a => point (f a)
  | segment a b => segment (f a) (f b)
  | triangle a b c => triangle (f a) (f b) (f c)
  | tetrahedron a b c d => tetrahedron (f a) (f b) (f c) (f d)

/-- Lengths below this are taken for rounding. -/
def tolerance : Float := Scalar.epsilon * 10

/-- The simplex with one corner more, unless that corner lies in the space of the others. -/
def add? (s : Simplex Difference) (p : Difference) : Option (Simplex Difference) :=
  match s with
  | point a => if (a.point - p.point).normSq < tolerance then none else some (segment a p)
  | segment a b =>
    let up := (b.point - a.point).cross (p.point - a.point)
    if up.normSq < tolerance then none else some (triangle a b p)
  | triangle a b c =>
    let up := ((b.point - a.point).cross (c.point - a.point)).normalize
    if (up.dot (p.point - a.point)).abs < tolerance then none else some (tetrahedron a b c p)
  | tetrahedron .. => none

end Simplex

end Clearance
