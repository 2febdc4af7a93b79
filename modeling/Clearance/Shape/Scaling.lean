import Clearance.Shape.Basic

/-! Shapes made larger: first scaled about their centre, then grown by a margin on every side. A
mesh is scaled about the mean of its vertices, each vertex moving along its own ray from there. -/

namespace Clearance

variable {α : Type} [Scalar α]

namespace Mesh

/-- The mean of the vertices, summed from the first to the last. -/
def centroid (vs : List (Vec3 α)) : Vec3 α :=
  (vs.foldl (· + ·) Vec3.zero).divBy (Scalar.ofNat vs.length)

/-- The distance from the centroid within which a vertex has no direction of its own. -/
def nearCentroid : α := Scalar.ofNat 1 / Scalar.ofNat 1000000

/-- Grows one coordinate away from zero; at zero it goes down. -/
def pushOut (margin e : α) : α := if Scalar.lt Scalar.zero e then e + margin else e - margin

/-- Moves a vertex away from the centroid `c`, along its ray or, too close to `c`, axis by axis. -/
def moveVertex (c : Vec3 α) (factor margin : α) (v : Vec3 α) : Vec3 α :=
  let ray := v - c
  let dist := ray.norm
  if Scalar.lt nearCentroid dist then c + ray.scale (factor + margin / dist)
  else c + ray.map (pushOut margin)

def scalePad (vs : List (Vec3 α)) (factor margin : α) : List (Vec3 α) :=
  vs.map (moveVertex (centroid vs) factor margin)

@[simp] theorem length_scalePad (vs : List (Vec3 α)) (factor margin : α) :
    (scalePad vs factor margin).length = vs.length := by simp [scalePad]

end Mesh

namespace Shape

/-- The shape scaled by `factor` and then grown by `margin`; a plane stays as it is. -/
def scalePad (factor margin : α) : Shape α → Shape α
  | sphere r => sphere (r * factor + margin)
  | box s => box (s.map fun e => e * factor + Scalar.two * margin)
  | cylinder r l => cylinder (r * factor + margin) (l * factor + Scalar.two * margin)
  | cone r l => cone (r * factor + margin) (l * factor + Scalar.two * margin)
  | plane n d => plane n d
  | mesh vs ts => mesh (Mesh.scalePad vs factor margin) ts

theorem kind_scalePad (factor margin : α) (s : Shape α) :
    (s.scalePad factor margin).kind = s.kind := by
  cases s <;> rfl

end Shape

end Clearance
