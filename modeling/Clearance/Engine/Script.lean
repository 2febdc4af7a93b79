import Clearance.Engine.Basic

/-! An engine that gives prepared answers to all pairs of solids and remembers what it was asked. -/

namespace Clearance

/-- Which question an engine was asked, and the distance that came with it. -/
inductive EngineQuestion where
  | touching
  | manifolds (prediction : Float)
  | closest (prediction : Float)

structure EngineCall where
  question : EngineQuestion
  pos12 : Pose Float
  solid1 : Solid Float
  solid2 : Solid Float

/-- Prepared answers; a missing one declines. -/
structure EngineScript where
  manifolds? : Option (List Manifold) := none
  closest? : Option (Option Closest) := none
  touching? : Option Bool := none

/-- The engine that follows a script. Its memory is the list of its calls. -/
def EngineScript.engine (t : EngineScript) : Engine (List EngineCall) where
  manifolds calls p a b d := (calls ++ [⟨.manifolds d, p, a, b⟩], t.manifolds?)
  closest calls p a b d := (calls ++ [⟨.closest d, p, a, b⟩], t.closest?)
  touching calls p a b := (calls ++ [⟨.touching, p, a, b⟩], t.touching?)

end Clearance
