import NodeGen.Decimal.Binary

/-! The shortest decimal that rounds to a given binary number: of the decimals with the fewest
digits that lie in its rounding interval, the one nearest to it. -/

set_option autoImplicit false

namespace NodeGen.Decimal

/-- The number `digits * 10 ^ exponent`. -/
structure Scaled where
  digits : Nat
  exponent : Int
  deriving DecidableEq, Repr

/-- Comparison of `digits * 10 ^ exponent` with `num / den`. -/
def Scaled.compareRatio (decimal : Scaled) (num den : Nat) : Ordering :=
  compare (decimal.digits * Nat.pow 10 decimal.exponent.toNat * den)
    (num * Nat.pow 10 (-decimal.exponent).toNat)

/-- A number that has come to have one digit more than `count` is a power of ten, one place up. -/
def Scaled.carry (count : Nat) (decimal : Scaled) : Scaled :=
  if decimal.digits = Nat.pow 10 count then ⟨Nat.pow 10 (count - 1), decimal.exponent + 1⟩
  else decimal

/-- The greatest `p` with `10 ^ p ≤ num / den`, for positive `num` and `den`. -/
def floorLog10 (num den : Nat) : Int :=
  if den ≤ num then ((Nat.toDigits 10 (num / den)).length : Int) - 1
  else
    let width := (Nat.toDigits 10 (den / num)).length
    if den ≤ num * Nat.pow 10 (width - 1) then 1 - (width : Int) else -(width : Int)

namespace Binary

/-- The ends of the rounding interval as multiples of `2 ^ (exponent - 2)`. Below a power of two
the neighbours lie closer. -/
def interval (value : Binary) : Nat × Nat :=
  let centre := 4 * value.mantissa
  if value.mantissa = Nat.pow 2 52 ∧ -1074 < value.exponent then (centre - 1, centre + 2)
  else (centre - 2, centre + 2)

/-- The ends of the interval belong to it when the mantissa is even. -/
def roundsTo (value : Binary) (decimal : Scaled) : Bool :=
  let quarter (count : Nat) : Nat × Nat := (Binary.mk count (value.exponent - 2)).ratio
  let low := quarter value.interval.1
  let high := quarter value.interval.2
  let below := decimal.compareRatio low.1 low.2
  let above := decimal.compareRatio high.1 high.2
  if value.mantissa % 2 = 0 then below != .lt && above != .gt else below == .gt && above == .lt

/-- The nearest decimal in the interval among the two neighbours of the value that have `count`
digits. -/
def candidate? (value : Binary) (count : Nat) : Option Scaled :=
  let (num, den) := value.ratio
  let exponent := floorLog10 num den - (count : Int) + 1
  let scaledNum := num * Nat.pow 10 (-exponent).toNat
  let scaledDen := den * Nat.pow 10 exponent.toNat
  let floor := scaledNum / scaledDen
  let lower : Scaled := ⟨floor, exponent⟩
  let upper : Scaled := ⟨floor + 1, exponent⟩
  match value.roundsTo lower, value.roundsTo upper with
  | true, true => some (Scaled.carry count ⟨roundToEven scaledNum scaledDen, exponent⟩)
  | true, false => some lower
  | false, true => some (upper.carry count)
  | false, false => none

/-- Seventeen digits always suffice. -/
def shortest (value : Binary) : Scaled :=
  ((List.range 17).findSome? fun index => value.candidate? (index + 1)).getD ⟨0, 0⟩

end Binary

end NodeGen.Decimal
