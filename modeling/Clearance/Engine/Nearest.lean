import Clearance.Engine.Region
import Clearance.Engine.Simplex

/-! The point of a simplex nearest to the origin. The part of the simplex that carries this point is
kept and the rest is dropped, so that the nearest point lies inside what is left. -/

namespace Clearance

/-- A corner with its share of a point. -/
abbrev Share := Difference × Float

/-- The point of a simplex nearest to the origin, and the corners that it is made of. -/
structure Nearest where
  point : Vec3 Float
  carrier : Simplex Share

namespace Nearest

/-- The points of the two bodies that a sum of shares stands for. -/
def blend (s : Simplex Share) : Vec3 Float × Vec3 Float :=
  s.corners.foldl (fun (u, v) (d, t) => (u + d.first.scale t, v + d.second.scale t)) (.zero, .zero)

def onPoint (a : Difference) : Nearest := ⟨a.point, .point (a, 1)⟩

/-- The point on the line through two corners, at a share of the second one. -/
def between (a b : Difference) (t : Float) : Nearest :=
  ⟨a.point + (b.point - a.point).scale t, .segment (a, 1 - t) (b, t)⟩

/-- The same with the second corner first. -/
def betweenTurned (a b : Difference) (t : Float) : Nearest :=
  ⟨a.point + (b.point - a.point).scale t, .segment (b, t) (a, 1 - t)⟩

def onSegment (a b : Difference) : Nearest :=
  let ab := b.point - a.point
  let along := ab.dot (.zero - a.point)
  if along ≤ 0 then onPoint a
  else if ab.normSq ≤ along then onPoint b
  else between a b (along / ab.normSq)

/-- A triangle without a face that holds the origin between its ends counts as holding it. -/
def onTriangle (a b c : Difference) : Nearest :=
  let f : Facet Float := ⟨a.point, b.point, c.point⟩
  let place := f.region .zero
  match place with
  | .cornerA => onPoint a
  | .cornerB => onPoint b
  | .cornerC => onPoint c
  | .sideAB t => between a b t
  | .sideAC t => between a c t
  | .sideBC t => betweenTurned b c t
  | .face .. | .nowhere =>
    let w := place.shares
    ⟨(f.pointAt? place).getD .zero, .triangle (a, w.x) (b, w.y) (c, w.z)⟩

/-! ### Tetrahedra -/

/-- How far the origin lies beyond the side from `a` to `b` of a face with the normal `up`. -/
def beyond (a b : Difference) (up : Vec3 Float) : Float :=
  ((Vec3.zero - a.point).cross (b.point - a.point)).dot up

/-- The share of `b` in the point of an edge nearest to the origin, if the origin lies beyond the
edge as seen from both of its faces, and between its ends. -/
def edgeShare? (a b : Difference) (beyond1 beyond2 : Float) : Option Float :=
  let ab := b.point - a.point
  let u := (Vec3.zero - a.point).dot ab
  let v := (Vec3.zero - b.point).dot ab
  let size := u - v
  if size != 0 ∧ 0 ≤ beyond1 ∧ 0 ≤ beyond2 ∧ 0 ≤ u ∧ u ≤ size then some (u / size) else none

/-- The shares of the corners of a face in its point nearest to the origin, if the origin lies
within the face as seen from `inward`, the direction of the fourth corner, and on the other side of
it. -/
def faceShares? (a b c : Difference) (inward : Vec3 Float) (beyonds : List Float) :
    Option (Vec3 Float) :=
  if beyonds.all (· < 0) then
    let up := (b.point - a.point).cross (c.point - a.point)
    let ap := Vec3.zero - a.point
    let bp := Vec3.zero - b.point
    let cp := Vec3.zero - c.point
    if up.dot inward * up.dot ap < 0 ∧ Scalar.epsilon < up.norm then
      let n := up.normalize
      let vc := n.dot (ap.cross bp)
      let va := n.dot (bp.cross cp)
      let vb := n.dot (cp.cross ap)
      let share := 1 / (va + vb + vc)
      some ⟨va * share, vb * share, vc * share⟩
    else none
  else none

/-- The point of a face with the given shares of its corners. -/
def facePoint (a b c : Difference) (w : Vec3 Float) : Vec3 Float :=
  a.point.scale w.x + b.point.scale w.y + c.point.scale w.z

def onTetrahedron (a b c d : Difference) : Nearest :=
  let ab := b.point - a.point
  let ac := c.point - a.point
  let ad := d.point - a.point
  let bc := c.point - b.point
  let bd := d.point - b.point
  let cd := d.point - c.point
  let ap := Vec3.zero - a.point
  let bp := Vec3.zero - b.point
  let cp := Vec3.zero - c.point
  let dp := Vec3.zero - d.point
  if ap.dot ab ≤ 0 ∧ ap.dot ac ≤ 0 ∧ ap.dot ad ≤ 0 then onPoint a
  else if bp.dot bc ≤ 0 ∧ bp.dot bd ≤ 0 ∧ 0 ≤ bp.dot ab then onPoint b
  else if cp.dot cd ≤ 0 ∧ 0 ≤ cp.dot bc ∧ 0 ≤ cp.dot ac then onPoint c
  else if 0 ≤ dp.dot ad ∧ 0 ≤ dp.dot bd ∧ 0 ≤ dp.dot cd then onPoint d
  else
    let abc := ab.cross ac
    let abd := ab.cross ad
    let acd := ac.cross ad
    let bcd := bc.cross bd
    let abOfC := beyond a b abc
    let abOfD := beyond a b abd
    let acOfD := beyond a c acd
    let acOfB := beyond a c (-abc)
    let adOfB := beyond a d (-abd)
    let adOfC := beyond a d (-acd)
    let bcOfA := beyond b c abc
    let bcOfD := beyond b c bcd
    let bdOfC := beyond b d (-bcd)
    let bdOfA := beyond b d abd
    let cdOfA := beyond c d acd
    let cdOfB := beyond c d bcd
    let edge (p q : Difference) (s t : Float) (place : Difference → Difference → Float → Nearest) :=
      (edgeShare? p q s t).map (place p q)
    let onEdge := edge a b abOfC abOfD between
      <|> edge a c acOfD acOfB between
      <|> edge a d adOfB adOfC between
      <|> edge b c bcOfA bcOfD betweenTurned
      <|> edge b d bdOfC bdOfA betweenTurned
      <|> edge c d cdOfA cdOfB between
    let onFace := ((faceShares? a b c ad [abOfC, bcOfA, acOfB]).map fun w =>
        ⟨facePoint a b c w, .triangle (a, w.x) (b, w.y) (c, w.z)⟩)
      <|> ((faceShares? a b d ac [adOfB, abOfD, bdOfA]).map fun w =>
        ⟨facePoint a b d w, .triangle (a, w.x) (b, w.y) (d, w.z)⟩)
      <|> ((faceShares? a c d ab [acOfD, cdOfA, adOfC]).map fun w =>
        ⟨facePoint a c d w, .triangle (a, w.x) (d, w.z) (c, w.y)⟩)
      <|> ((faceShares? b c d (-ab) [bcOfD, cdOfB, bdOfC]).map fun w =>
        ⟨facePoint b c d w, .triangle (d, w.z) (b, w.x) (c, w.y)⟩)
    (onEdge <|> onFace).getD ⟨.zero, .tetrahedron (a, 0) (b, 0) (c, 0) (d, 0)⟩

/-- The nearest point of a simplex. It is the origin itself if the simplex holds it. -/
def ofSimplex : Simplex Difference → Nearest
  | .point a => onPoint a
  | .segment a b => onSegment a b
  | .triangle a b c => onTriangle a b c
  | .tetrahedron a b c d => onTetrahedron a b c d

end Nearest

end Clearance
