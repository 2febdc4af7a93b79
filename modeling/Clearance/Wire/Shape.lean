import Clearance.Json.Basic
import Clearance.Shape.Basic

/-! Documents for shapes. A shape is an object with its kind for a name and its measures inside. -/

namespace Clearance

def Vec3.toJson (v : Vec3 Float) : Json := .array (v.toList.map Json.ofFloat)

def Vec3.ofJson? (j : Json) : Option (Vec3 Float) := do
  match ← j.array? with
  | [x, y, z] => return ⟨← x.float?, ← y.float?, ← z.float?⟩
  | _ => none

def ShapeKind.ofName? (s : String) : Option ShapeKind :=
  [ShapeKind.sphere, .box, .cylinder, .cone, .plane, .mesh].find? fun k => k.name = s

def ShapeKind.toJson (k : ShapeKind) : Json := .text k.name

def ShapeKind.ofJson? (j : Json) : Option ShapeKind := j.plainVariant?.bind ofName?

def Triangle.toJson (t : Triangle) : Json := .array (t.toList.map fun i => .integer i.toNat)

def Triangle.ofJson? (j : Json) : Option Triangle := do
  let word (j : Json) : Option UInt32 := (j.natBelow? UInt32.size).map UInt32.ofNat
  match ← j.array? with
  | [a, b, c] => return ⟨← word a, ← word b, ← word c⟩
  | _ => none

namespace Shape

/-- The measures of a shape with their names. -/
def measures : Shape Float → List (String × Json)
  | sphere r => [("radius", .ofFloat r)]
  | box s => [("size", s.toJson)]
  | cylinder r l | cone r l => [("radius", .ofFloat r), ("length", .ofFloat l)]
  | plane n d => [("a", .ofFloat n.x), ("b", .ofFloat n.y), ("c", .ofFloat n.z), ("d", .ofFloat d)]
  | mesh vs ts =>
    [("vertices", .array (vs.map Vec3.toJson)), ("triangles", .array (ts.map Triangle.toJson))]

def toJson (s : Shape Float) : Json := .object [(s.kind.name, .object s.measures)]

/-- The names of the measures of a kind, in their order. -/
def measureNames : ShapeKind → List String
  | .sphere => ["radius"]
  | .box => ["size"]
  | .cylinder | .cone => ["radius", "length"]
  | .plane => ["a", "b", "c", "d"]
  | .mesh => ["vertices", "triangles"]

/-- The shape of a kind with the given measures. -/
def ofMeasures? : ShapeKind → List Json → Option (Shape Float)
  | .sphere, [r] => return sphere (← r.float?)
  | .box, [s] => return box (← Vec3.ofJson? s)
  | .cylinder, [r, l] => return cylinder (← r.float?) (← l.float?)
  | .cone, [r, l] => return cone (← r.float?) (← l.float?)
  | .plane, [a, b, c, d] =>
    return plane ⟨← a.float?, ← b.float?, ← c.float?⟩ (← d.float?)
  | .mesh, [vs, ts] =>
    return mesh (← (← vs.array?).mapM Vec3.ofJson?) (← (← ts.array?).mapM Triangle.ofJson?)
  | _, _ => none

def ofJson? (j : Json) : Option (Shape Float) := do
  match ← j.variant? with
  | (name, some content) =>
    let kind ← ShapeKind.ofName? name
    ofMeasures? kind (← content.fields? (measureNames kind))
  | (_, none) => none

end Shape

end Clearance
