import Clearance.Number.Shortest

/-! Doubles with a fixed number of decimal places, and as the hexadecimal digits of their bits. -/

namespace Clearance.Number

/-- The whole number nearest to `num / den`, a half going to the even neighbour. -/
def roundDiv (num den : Nat) : Nat :=
  let q := num / den
  let r := num % den
  if 2 * r < den ∨ (2 * r = den ∧ q % 2 = 0) then q else q + 1

/-- Sixteen hexadecimal digits. -/
def hexText (b : UInt64) : String :=
  let t := Nat.toDigits 16 b.toNat
  "0x" ++ Decimal.zeros (16 - t.length) ++ String.ofList t

/-- The bits of a double; the two zeros are written alike, and so is every value that is no
number. -/
def exactText (x : Float) : String :=
  if x.isNaN then "NaN" else if x == 0 then hexText 0 else hexText x.toBits

/-- The double to `places` decimal places, rounded from its exact value. A result of zero has no
sign. -/
def placesText (places : Nat) (x : Float) : String :=
  let d := Binary.ofFloat x
  let unit := Nat.pow 10 places
  let n := roundDiv (d.fraction.1 * unit) d.fraction.2
  let low := Nat.toDigits 10 (n % unit)
  (if d.negative && n ≠ 0 then "-" else "") ++ toString (n / unit) ++ "." ++
    Decimal.zeros (places - low.length) ++ String.ofList low

/-- Six decimal places below `10 ^ 15` and the exact bits from there on. -/
def roundedText (x : Float) : String :=
  if x.isNaN then "NaN"
  else if x.isInf then (if x < 0 then "-inf" else "inf")
  else if 1.0e15 ≤ x.abs then exactText x
  else placesText 6 x

end Clearance.Number
