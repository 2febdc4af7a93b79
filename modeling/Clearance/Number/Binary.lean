/-! The exact value of a double: a sign, a whole number and a power of two. -/

namespace Clearance.Number

/-- The number `mantissa * 2 ^ exponent`, negated if `negative`. -/
structure Binary where
  negative : Bool
  mantissa : Nat
  exponent : Int
  deriving DecidableEq

namespace Binary

/-- The hidden bit, above the 52 stored bits of the fraction. -/
def hiddenBit : Nat := 0x10000000000000

/-- The sign bit, above the fraction and the eleven bits of the exponent. -/
def signBit : Nat := 0x8000000000000000

/-- Reads the fields of a finite double: a stored exponent of zero means no hidden bit. -/
def ofBits (b : Nat) : Binary :=
  let field : Nat := b % signBit / hiddenBit
  let fraction : Nat := b % hiddenBit
  ⟨signBit ≤ b,
    if field = 0 then fraction else fraction + hiddenBit,
    if field = 0 then -1074 else (field : Int) - 1075⟩

def ofFloat (x : Float) : Binary := ofBits x.toBits.toNat

/-- The size as a quotient of naturals. -/
def fraction (d : Binary) : Nat × Nat :=
  if 0 ≤ d.exponent then (d.mantissa * Nat.pow 2 d.exponent.toNat, 1)
  else (d.mantissa, Nat.pow 2 (-d.exponent).toNat)

end Binary

end Clearance.Number
