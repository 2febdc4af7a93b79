import Clearance.Allowance.Basic

/-! Deciders written down as rules: tests of one contact, joined by negation, all and any. A test
against a value that is no number fails. -/

namespace Clearance

inductive Rule where
  | const (v : Bool)
  | depthBelow (v : Float)
  | depthAtMost (v : Float)
  | normalAtLeast (axis : Axis) (v : Float)
  | positionBelow (axis : Axis) (v : Float)
  | firstIs (id : BodyId)
  | secondHasRole (r : Role)
  | not (r : Rule)
  | all (rs : List Rule)
  | any (rs : List Rule)

namespace Rule

mutual

def allows : Rule → Decider
  | const v, _ => v
  | depthBelow v, c => decide (c.depth < v)
  | depthAtMost v, c => decide (c.depth ≤ v)
  | normalAtLeast a v, c => decide (v ≤ c.normal.along a)
  | positionBelow a v, c => decide (c.position.along a < v)
  | firstIs id, c => c.first.id = id
  | secondHasRole r, c => c.second.role = r
  | not r, c => !r.allows c
  | all rs, c => allowAll rs c
  | any rs, c => allowAny rs c

def allowAll : List Rule → Decider
  | [], _ => true
  | r :: rs, c => r.allows c && allowAll rs c

def allowAny : List Rule → Decider
  | [], _ => false
  | r :: rs, c => r.allows c || allowAny rs c

end

end Rule

end Clearance
