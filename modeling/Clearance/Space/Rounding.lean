import Clearance.Space.Scalar

/-! When two doubles are taken for one value: when they differ by no more than rounding makes them
differ. -/

namespace Clearance.Scalar

/-- Whether two numbers are equal up to the rounding of one operation. -/
def nearlyEqual (x y : Float) : Bool :=
  let d := (x - y).abs
  x == y || x.isFinite && y.isFinite && (d ≤ epsilon || d ≤ max x.abs y.abs * epsilon)

/-- Whether at most three doubles lie between two numbers, or they differ by at most `epsilon`. -/
def adjacent (x y : Float) : Bool :=
  x == y || (x - y).abs ≤ epsilon ||
    (x == x && y == y && isNegative x == isNegative y &&
      (if x.toBits ≤ y.toBits then y.toBits - x.toBits else x.toBits - y.toBits) ≤ 4)

end Clearance.Scalar
