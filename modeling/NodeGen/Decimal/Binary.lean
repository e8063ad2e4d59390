/-! Non-negative binary floating-point numbers of 53 bits, kept as exact integers, and rounding of
exact quotients to them. -/

set_option autoImplicit false

namespace NodeGen.Decimal

/-- The number `mantissa * 2 ^ exponent`. As results of rounding, `mantissa` has at most 53 bits,
`exponent` lies between -1074 and 971, and it is -1074 where `mantissa` has fewer bits. -/
structure Binary where
  mantissa : Nat
  exponent : Int
  deriving DecidableEq, Repr

namespace Binary

def zero : Binary :=
  ⟨0, -1074⟩

/-- Numerator and denominator of the number. -/
def ratio (value : Binary) : Nat × Nat :=
  (value.mantissa * Nat.pow 2 value.exponent.toNat, Nat.pow 2 (-value.exponent).toNat)

/-- The greatest `e` with `2 ^ e ≤ num / den`, for positive `num` and `den`. -/
def floorLog2 (num den : Nat) : Int :=
  let guess : Int := (Nat.log2 num : Int) - (Nat.log2 den : Int)
  if den * Nat.pow 2 guess.toNat ≤ num * Nat.pow 2 (-guess).toNat then guess else guess - 1

/-- The integer nearest to `num / den`; of two the even one. -/
def roundToEven (num den : Nat) : Nat :=
  let floor := num / den
  let twice := 2 * (num % den)
  if twice < den then floor
  else if den < twice then floor + 1
  else if floor % 2 = 0 then floor else floor + 1

/-- The number nearest to `num / den`, unless that lies above all of them. -/
def nearest (num den : Nat) : Option Binary :=
  if num = 0 then some zero
  else
    let exponent := max (-1074) (floorLog2 num den - 52)
    let mantissa :=
      roundToEven (num * Nat.pow 2 (-exponent).toNat) (den * Nat.pow 2 exponent.toNat)
    let value : Binary :=
      if mantissa = Nat.pow 2 53 then ⟨Nat.pow 2 52, exponent + 1⟩ else ⟨mantissa, exponent⟩
    if 971 < value.exponent then none else some value

def ofNat (value : Nat) : Option Binary :=
  nearest value 1

def mul (left right : Binary) : Option Binary :=
  nearest (left.ratio.1 * right.ratio.1) (left.ratio.2 * right.ratio.2)

/-- The quotient by a number that is not zero; a quotient never lies above all numbers here,
because the divisors are powers of ten. -/
def div (left right : Binary) : Binary :=
  (nearest (left.ratio.1 * right.ratio.2) (left.ratio.2 * right.ratio.1)).getD zero

end Binary

end NodeGen.Decimal
