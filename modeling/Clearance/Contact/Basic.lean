import Clearance.Body.Basic
import Clearance.Space.Vec3

/-! Contacts: where two bodies meet, in which direction and how deep. -/

namespace Clearance

structure Contact where
  position : Vec3 Float
  /-- Points from the first body to the second. -/
  normal : Vec3 Float
  depth : Float
  first : Body
  second : Body

namespace Contact

/-- A contact whose depth is at least zero; a depth that is no number counts as zero. -/
def make (position normal : Vec3 Float) (depth : Float) (first second : Body) : Contact :=
  ⟨position, normal, if 0 < depth then depth else 0, first, second⟩

/-- The same contact seen from the other body. -/
def flip (c : Contact) : Contact := ⟨c.position, -c.normal, c.depth, c.second, c.first⟩

/-- Equality as numbers and names: the two zeros are equal, and a value that is no number is equal
to nothing. -/
def same (c d : Contact) : Bool :=
  c.position.eq d.position && c.normal.eq d.normal && c.depth == d.depth &&
    c.first == d.first && c.second == d.second

end Contact

end Clearance
