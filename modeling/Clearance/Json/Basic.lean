import Clearance.Number.Shortest

/-! JSON documents as trees. Whole numbers and other numbers are told apart, members of an object
keep their order and may share a name, and a literal that has a form but no value is kept as such.
-/

namespace Clearance

inductive Json where
  | null
  | bool (b : Bool)
  | integer (z : Int)
  | real (x : Float)
  | text (s : String)
  | array (xs : List Json)
  | object (ms : List (String × Json))
  /-- A literal without a value: a number out of range, or text with half of a surrogate pair. It
  may be skipped but not read. -/
  | unreadable

namespace Json

/-- The number that a finite double is written as; other doubles have no number. -/
def ofFloat (x : Float) : Json := if x.isFinite then real x else null

def finite? (x : Float) : Option Float := if x.isFinite then some x else none

/-- The double nearest to a number; a number out of range has none. -/
def float? : Json → Option Float
  | integer z => finite? (Float.ofInt z)
  | real x => finite? x
  | _ => none

/-- A whole number from zero up to but not including `bound`. -/
def natBelow? (bound : Nat) : Json → Option Nat
  | integer z => if 0 ≤ z ∧ z < bound then some z.toNat else none
  | _ => none

def bool? : Json → Option Bool
  | bool b => some b
  | _ => none

def text? : Json → Option String
  | text s => some s
  | _ => none

def array? : Json → Option (List Json)
  | array xs => some xs
  | _ => none

def object? : Json → Option (List (String × Json))
  | object ms => some ms
  | _ => none

/-- The only member with a name; none if there are two. -/
def member? (ms : List (String × Json)) (name : String) : Option Json :=
  match ms.filter fun m => m.1 = name with
  | [m] => some m.2
  | _ => none

/-- The fields of a record in the order of their names. A record is an object with each field once
and any other members, or the array of exactly its fields. -/
def fields? (names : List String) : Json → Option (List Json)
  | object ms => names.mapM (member? ms)
  | array xs => if xs.length = names.length then some xs else none
  | _ => none

/-- The variant of a sum: its name alone, or an object with its name and content. -/
def variant? : Json → Option (String × Option Json)
  | text s => some (s, none)
  | object [(s, j)] => some (s, some j)
  | _ => none

/-- The name of a variant without content, which may also be written with a null for content. -/
def plainVariant? (j : Json) : Option String :=
  match j.variant? with
  | some (s, none) | some (s, some null) => some s
  | _ => none

end Json

end Clearance
