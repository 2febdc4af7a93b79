import Clearance.Number.Binary

/-! The order of all doubles by their bit patterns. It agrees with comparison where that decides,
and also tells the two zeros apart and gives a place to values that are no number. -/

namespace Clearance.Number

/-- Orders all doubles as their bit patterns do: minus zero comes before zero, and a value that is
no number comes after infinity. -/
def orderKey (x : Float) : Int :=
  let b := x.toBits.toNat
  if b < Binary.signBit then b else -((b - Binary.signBit : Nat) : Int) - 1

/-- Whether `x` comes no later than `y` in the order of all doubles. -/
def totalLe (x y : Float) : Bool := orderKey x ≤ orderKey y

theorem totalLe_trans {x y z : Float} (h : totalLe x y = true) (k : totalLe y z = true) :
    totalLe x z = true := by
  simp only [totalLe, decide_eq_true_eq] at *
  omega

theorem totalLe_total (x y : Float) : totalLe x y = true ∨ totalLe y x = true := by
  simp only [totalLe, decide_eq_true_eq]
  omega

end Clearance.Number
