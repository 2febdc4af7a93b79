import Clearance.Engine.Manifold
import Clearance.Engine.NarrowPhase
import Clearance.Engine.Touch

/-! The engine that computes contacts itself. Every pair of solids has manifolds but two
half-spaces, and these have no deepest contact either. -/

namespace Clearance.Engine

def exact : Engine Unit where
  manifolds _ pos12 a b _ := ((), ManifoldRule.solids pos12 a b)
  closest _ _ _ _ _ := ((), none)
  touching _ pos12 a b := ((), Touch.solids pos12 a b)

end Clearance.Engine
