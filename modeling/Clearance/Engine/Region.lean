import Clearance.Shape.Solid

/-! Where on a facet its nearest point to a given one lies: at a corner, on a side or inside its
face. The place is given by shares of the corners, which add up to one. -/

namespace Clearance

/-- A place on a facet. The share of a side belongs to its second end. A facet without a face has no
place for the points between the ends of its sides. -/
inductive Region where
  | cornerA | cornerB | cornerC
  | sideAB (share : Float)
  | sideAC (share : Float)
  | sideBC (share : Float)
  | face (shareB shareC : Float)
  | nowhere

namespace Region

/-- The shares of the three corners. -/
def shares : Region → Vec3 Float
  | cornerA => ⟨1, 0, 0⟩
  | cornerB => ⟨0, 1, 0⟩
  | cornerC => ⟨0, 0, 1⟩
  | sideAB t => ⟨1 - t, t, 0⟩
  | sideAC t => ⟨1 - t, 0, t⟩
  | sideBC t => ⟨0, 1 - t, t⟩
  | face v w => ⟨1 - v - w, v, w⟩
  | nowhere => .zero

end Region

namespace Facet

/-- The place of the point of a facet nearest to `p`. The corners are tried first, then the sides by
the share of the corner across, which is negative beyond a side. -/
def region (f : Facet Float) (p : Vec3 Float) : Region :=
  let ab := f.b - f.a
  let ac := f.c - f.a
  let bc := f.c - f.b
  let ap := p - f.a
  let bp := p - f.b
  let cp := p - f.c
  let up := ab.cross ac
  let va := up.dot (bc.cross bp)
  let vb := -(up.dot (ac.cross cp))
  let vc := up.dot (ab.cross ap)
  if ab.dot ap ≤ 0 ∧ ac.dot ap ≤ 0 then .cornerA
  else if 0 ≤ ab.dot bp ∧ ac.dot bp ≤ ab.dot bp then .cornerB
  else if 0 ≤ ac.dot cp ∧ ab.dot cp ≤ ac.dot cp then .cornerC
  else if vc < 0 ∧ 0 ≤ ab.dot ap ∧ ab.dot bp ≤ 0 then .sideAB (ab.dot ap / ab.normSq)
  else if vb < 0 ∧ 0 ≤ ac.dot ap ∧ ac.dot cp ≤ 0 then .sideAC (ac.dot ap / ac.normSq)
  else if va < 0 ∧ 0 ≤ ac.dot bp - ab.dot bp ∧ 0 ≤ ab.dot cp - ac.dot cp then
    .sideBC (bc.dot bp / bc.normSq)
  else if va + vb + vc == 0 then .nowhere
  else
    let share := 1 / (va + vb + vc)
    .face (vb * share) (vc * share)

/-- The point at a place. -/
def pointAt? (f : Facet Float) : Region → Option (Vec3 Float)
  | .cornerA => some f.a
  | .cornerB => some f.b
  | .cornerC => some f.c
  | .sideAB t => some (f.a + (f.b - f.a).scale t)
  | .sideAC t => some (f.a + (f.c - f.a).scale t)
  | .sideBC t => some (f.b + (f.c - f.b).scale t)
  | .face v w => some (f.a + (f.b - f.a).scale v + (f.c - f.a).scale w)
  | .nowhere => none

end Facet

end Clearance
