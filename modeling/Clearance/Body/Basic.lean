import Clearance.Text.Quoted

/-! Bodies: a name, unique in its scene, and the role the body plays there. -/

namespace Clearance

/-- The name of a body. Names are ordered by code points. -/
structure BodyId where
  name : String
  deriving DecidableEq

namespace BodyId

instance : Coe String BodyId := ⟨mk⟩

/-- Whether `a` comes no later than `b`. -/
def le (a b : BodyId) : Bool := !(b.name < a.name)

/-- The names in order, each as often as it was given. -/
def sort (ids : List BodyId) : List BodyId := ids.mergeSort le

theorem sort_perm (ids : List BodyId) : (sort ids).Perm ids := List.mergeSort_perm ids le

def compare (a b : BodyId) : Ordering :=
  if a.name < b.name then .lt else if a.name = b.name then .eq else .gt

end BodyId

inductive Role where
  | robotLink | robotAttached | worldObject | other
  deriving DecidableEq

instance : Inhabited Role := ⟨.other⟩

def Role.name : Role → String
  | .robotLink => "RobotLink"
  | .robotAttached => "RobotAttached"
  | .worldObject => "WorldObject"
  | .other => "Other"

structure Body where
  id : BodyId
  role : Role
  deriving DecidableEq

namespace Body

def robotLink (id : BodyId) : Body := ⟨id, .robotLink⟩

def robotAttached (id : BodyId) : Body := ⟨id, .robotAttached⟩

def worldObject (id : BodyId) : Body := ⟨id, .worldObject⟩

def describe (b : Body) : String :=
  "BodyData \x7b id: " ++ Text.quoted b.id.name ++ ", kind: " ++ b.role.name ++ " \x7d"

/-- The robot link and the attached body among two bodies, in this order. -/
def linkAndAttached (a b : Body) : Option (BodyId × BodyId) :=
  match a.role, b.role with
  | .robotLink, .robotAttached => some (a.id, b.id)
  | .robotAttached, .robotLink => some (b.id, a.id)
  | _, _ => none

theorem linkAndAttached_comm (a b : Body) : linkAndAttached a b = linkAndAttached b a := by
  unfold linkAndAttached
  cases a.role <;> cases b.role <;> rfl

end Body

end Clearance
