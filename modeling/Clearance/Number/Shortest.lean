import Clearance.Number.Binary

/-! Decimal text of doubles with the fewest digits that read back. The reals that round to a double
form an interval around it; for one digit, two digits and so on the two neighbours of the double on
that decimal grid are tried, and the first grid with a neighbour inside the interval wins. -/

namespace Clearance.Number

/-- The number `digits * 10 ^ exponent`. -/
structure Decimal where
  digits : Nat
  exponent : Int
  deriving DecidableEq

namespace Decimal

def digitText (d : Decimal) : String := String.ofList (Nat.toDigits 10 d.digits)

/-- The power of ten of the leading digit. -/
def leading (d : Decimal) : Int := (Nat.toDigits 10 d.digits).length - 1 + d.exponent

end Decimal

/-- The interval of reals that round to a double, over one denominator: `low`, `value` and `high`
are numerators. The ends belong to it iff `closed`. -/
structure Interval where
  low : Nat
  value : Nat
  high : Nat
  denominator : Nat
  closed : Bool

namespace Interval

/-- Half a step on each side, where the step below a power of two is half as long. -/
def ofBinary (d : Binary) : Interval :=
  let below := if d.mantissa = Binary.hiddenBit ∧ -1074 < d.exponent then 1 else 2
  let e := d.exponent - 2
  let grow := Nat.pow 2 e.toNat
  ⟨(4 * d.mantissa - below) * grow, 4 * d.mantissa * grow, (4 * d.mantissa + 2) * grow,
    Nat.pow 2 (-e).toNat, d.mantissa % 2 = 0⟩

/-- The power of ten of the leading digit of the value. -/
def leading (i : Interval) : Int :=
  if i.denominator ≤ i.value then (Nat.toDigits 10 (i.value / i.denominator)).length - 1
  else
    let k := (Nat.toDigits 10 (i.denominator / i.value)).length
    if i.denominator = i.value * Nat.pow 10 (k - 1) then -((k - 1 : Nat) : Int) else -(k : Int)

/-- The neighbours of the value among the multiples of `10 ^ k` that round to the double, the nearer
one first and of two equally near ones the larger. -/
def neighbour? (i : Interval) (k : Int) : Option Nat :=
  let up := Nat.pow 10 (-k).toNat
  let unit := i.denominator * Nat.pow 10 k.toNat
  let d := i.value * up / unit
  let inside (c : Nat) : Bool :=
    if i.closed then i.low * up ≤ c * unit && c * unit ≤ i.high * up
    else i.low * up < c * unit && c * unit < i.high * up
  let below := i.value * up - d * unit
  let above := (d + 1) * unit - i.value * up
  let near := if below < above then [d, d + 1] else [d + 1, d]
  near.find? inside

/-- The decimal with the fewest digits inside the interval, seventeen at most. -/
def shortest (i : Interval) : Decimal :=
  let top := i.leading
  let found := (List.range 17).findSome? fun (n : Nat) =>
    (i.neighbour? (top - n)).map fun d =>
      if d = Nat.pow 10 (n + 1) then (⟨1, top + 1⟩ : Decimal) else ⟨d, top - n⟩
  found.getD ⟨0, 0⟩

end Interval

/-- How the text of a number looks: whether a whole number ends in `.0`, and from which power of ten
on and below which one it is written with an exponent. -/
structure DecimalStyle where
  pointZero : Bool
  exponentFrom : Option Int
  exponentBelow : Option Int

/-- Positional at every size. -/
def DecimalStyle.plain : DecimalStyle := ⟨false, none, none⟩

/-- A point in every number, and an exponent for the very large and the very small. -/
def DecimalStyle.detailed : DecimalStyle := ⟨true, some 16, some (-4)⟩

namespace Decimal

def zeros (n : Nat) : String := String.ofList (List.replicate n '0')

/-- Writes out all digits, with zeros up to the point or down from it. -/
def positional (d : Decimal) (pointZero : Bool) : String :=
  let t := Nat.toDigits 10 d.digits
  if 0 ≤ d.exponent then
    String.ofList t ++ zeros d.exponent.toNat ++ (if pointZero then ".0" else "")
  else
    let places := (-d.exponent).toNat
    let whole := t.length - places
    if 0 < whole then String.ofList (t.take whole) ++ "." ++ String.ofList (t.drop whole)
    else "0." ++ zeros (places - t.length) ++ String.ofList t

/-- Writes one digit before the point and the power of ten after an `e`. -/
def scientific (d : Decimal) : String :=
  let t := Nat.toDigits 10 d.digits
  let fraction := if t.length = 1 then "" else "." ++ String.ofList (t.drop 1)
  String.ofList (t.take 1) ++ fraction ++ "e" ++ toString d.leading

def text (d : Decimal) (style : DecimalStyle) : String :=
  let large := style.exponentFrom.any fun e => e ≤ d.leading
  let small := style.exponentBelow.any fun e => d.leading < e
  if large || small then d.scientific else d.positional style.pointZero

end Decimal

/-- The text of a double with the fewest digits that read back; a zero keeps its sign. -/
def shortestText (style : DecimalStyle) (x : Float) : String :=
  if x.isNaN then "NaN"
  else
    let d := Binary.ofFloat x
    let size :=
      if x.isInf then "inf"
      else if d.mantissa = 0 then (⟨0, 0⟩ : Decimal).positional style.pointZero
      else (Interval.ofBinary d).shortest.text style
    if d.negative then "-" ++ size else size

end Clearance.Number
