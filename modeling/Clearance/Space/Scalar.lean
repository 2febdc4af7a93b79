/-! The numbers in which lengths and coordinates are measured. Geometry is written over any type
with the operations below; programs run it on `Float`. -/

namespace Clearance

/-- A number type with the operations of geometry. `sinEighth` and `cosEighth` are the sine and
cosine of an eighth of a turn, which a quarter turn about an axis is made of. -/
class Scalar (α : Type) extends Add α, Sub α, Mul α, Div α, Neg α where
  ofNat : Nat → α
  sqrt : α → α
  abs : α → α
  le : α → α → Bool
  lt : α → α → Bool
  isFinite : α → Bool
  sinEighth : α
  cosEighth : α

instance : Scalar Float where
  ofNat := Float.ofNat
  sqrt := Float.sqrt
  abs := Float.abs
  le a b := decide (a ≤ b)
  lt a b := decide (a < b)
  isFinite := Float.isFinite
  sinEighth := 0.7071067811865475
  cosEighth := 0.7071067811865476

namespace Scalar

variable {α : Type} [Scalar α]

def zero : α := ofNat 0

def one : α := ofNat 1

def two : α := ofNat 2

def half : α := ofNat 1 / ofNat 2

/-- The distance from one to the next double. -/
def epsilon : α := ofNat 1 / ofNat 4503599627370496

/-- The largest double. -/
def largest : Float := 1.7976931348623157e308

/-- Equality of numbers: the two zeros are equal and a value that is no number equals nothing. -/
def eq (a b : α) : Bool := le a b && le b a

/-- Whether two numbers are equal, or both finite and at most `tol` apart. -/
def near (a b tol : α) : Bool := eq a b || (isFinite a && isFinite b && le (abs (a - b)) tol)

/-- Whether the sign of `s` is negative. A zero with a sign shows it in its reciprocal. -/
def isNegative (s : α) : Bool := lt s zero || lt (one / s) zero

/-- The sign of `s` on the size of `a`. -/
def withSign (a s : α) : α := if isNegative s then -(abs a) else abs a

/-- The lesser of two numbers, and the second one if they do not compare. -/
def min (a b : α) : α := if le a b then a else b

/-- The greater of two numbers, and the second one if they do not compare. -/
def max (a b : α) : α := if le b a then a else b

/-- The lesser of two values that are numbers, and the one that is a number if the other is not. -/
def least (a b : α) : α := if le a b || !eq b b then a else b

/-- The greater of two values that are numbers, and the one that is a number if the other is not. -/
def greatest (a b : α) : α := if le b a || !eq b b then a else b

end Scalar

end Clearance
