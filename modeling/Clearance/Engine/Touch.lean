import Clearance.Engine.Part
import Clearance.Engine.Separation

/-! Whether two solids touch. A ball touches what comes within its radius, a half-space touches what
reaches below its boundary, a cuboid touches a cuboid or a facet if nothing separates them, and
other parts touch if they overlap. Meshes are searched for a facet that touches. Two half-spaces are
not compared. -/

namespace Clearance.Touch

/-- Whether a convex body at `p` has a point on or below the plane through the origin. -/
def reachesBelow (n : Vec3 Float) (p : Pose Float) (s : Convex.Support) : Bool :=
  n.dot (Convex.place p s (-n)) ≤ 0

/-- Whether two parts touch, the second one at `p` seen from the first. -/
def parts (p : Pose Float) : Part → Part → Option Bool
  | .ball r, .ball s => some (p.origin.normSq ≤ (r + s) * (r + s))
  | .cuboid h, .cuboid k => some (Separation.cuboidGaps h k p).areClosed
  | .facet f, .cuboid h =>
    some (Separation.cuboidFacetGaps h f p.inverse p.inverse.inverse).areClosed
  | .cuboid h, .facet f => some (Separation.cuboidFacetGaps h f p p.inverse).areClosed
  | .ball r, s => some ((s.project p.inverse.origin).within p.inverse.origin r)
  | s, .ball r => some ((s.project p.origin).within p.origin r)
  | .halfSpace n, s => s.support?.map (reachesBelow n p)
  | s, .halfSpace n => s.support?.map (reachesBelow n p.inverse)
  | s, t => do return Convex.overlap p (← s.support?) (← t.support?)

/-- Whether a ball around `c` meets a mesh. -/
def ballMeets (t : BoxTree (Facet Float)) (c : Vec3 Float) (r : Float) : Bool :=
  (Projection.ontoFacets? t c).any fun q => q.within c r

/-- Whether a facet of a mesh touches a part at `p`. -/
def facetsMeet (p : Pose Float) (t : BoxTree (Facet Float)) (s : Part) : Bool :=
  (t.candidates fun b => b.overlaps (s.bounds p)).any fun f => parts p (.facet f) s == some true

/-- Whether two solids touch, the second one at `p` seen from the first. -/
def solids (p : Pose Float) (s t : Solid Float) : Option Bool :=
  match s, t with
  | .surface vs ts, .surface ws us => do
    let tree ← Solid.tree? vs ts
    let tree' ← Solid.tree? ws us
    let box := t.bounds p
    return (tree.candidates fun b => b.overlaps box).any fun f =>
      facetsMeet p.inverse tree' (.facet f)
  | .surface vs ts, t => do
    let tree ← Solid.tree? vs ts
    match t with
    | .ball r => return ballMeets tree p.origin r
    | t => return facetsMeet p tree (← t.part?)
  | s, .surface vs ts => do
    let tree ← Solid.tree? vs ts
    match s with
    | .ball r => return ballMeets tree p.inverse.origin r
    | s => return facetsMeet p.inverse tree (← s.part?)
  | s, t => do parts p (← s.part?) (← t.part?)

end Clearance.Touch
