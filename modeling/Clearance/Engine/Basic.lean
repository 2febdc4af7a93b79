import Clearance.Shape.Solid

/-! What a contact engine can be asked about two solids: contact manifolds, one deepest contact, or
whether they touch. Each question gives the pose of the second solid seen from the first, and the
engine may decline any of them. -/

namespace Clearance

/-- A point of a manifold, seen from each of the two solids. A negative distance is a depth. -/
structure ManifoldPoint where
  point1 : Vec3 Float
  point2 : Vec3 Float
  dist : Float

/-- Contact points with one normal. Parts of a solid may have frames of their own. -/
structure Manifold where
  normal1 : Vec3 Float
  part1? : Option (Pose Float) := none
  part2? : Option (Pose Float) := none
  points : List ManifoldPoint

/-- The deepest contact of two solids, or their nearest points. -/
structure Closest where
  point1 : Vec3 Float
  point2 : Vec3 Float
  normal1 : Vec3 Float
  dist : Float

/-- Answers questions about two solids, with a memory of its own; `none` declines. The number is the
distance within which points that do not touch are still reported. -/
structure Engine (σ : Type) where
  manifolds : σ → Pose Float → Solid Float → Solid Float → Float → σ × Option (List Manifold)
  closest : σ → Pose Float → Solid Float → Solid Float → Float → σ × Option (Option Closest)
  touching : σ → Pose Float → Solid Float → Solid Float → σ × Option Bool

end Clearance
