import NodeGen.Decimal.Shortest

/-! The text of a floating-point number: positional while the first digit stands from five places
behind the point to sixteen before it, with an exponent otherwise, and always with a point or an
exponent. -/

set_option autoImplicit false

namespace NodeGen.Decimal

structure Double where
  negative : Bool
  magnitude : Binary
  deriving DecidableEq, Repr

/-- The range of decimal exponents that is written without one. -/
structure Style where
  leastPlain : Int
  mostPlain : Int

def Style.json : Style :=
  ⟨-5, 15⟩

def exponentText (exponent : Int) : List Char :=
  if exponent < 0 then '-' :: Nat.toDigits 10 exponent.natAbs
  else '+' :: Nat.toDigits 10 exponent.natAbs

/-- The text of `digits * 10 ^ exponent`, where `digits` does not end in zero. -/
def Scaled.text (style : Style) (decimal : Scaled) : List Char :=
  let digits := Nat.toDigits 10 decimal.digits
  let leading := decimal.exponent + (digits.length : Int) - 1
  if style.leastPlain ≤ leading && leading ≤ style.mostPlain then
    if 0 ≤ decimal.exponent then
      digits ++ List.replicate decimal.exponent.toNat '0' ++ ['.', '0']
    else if 0 ≤ leading then
      let whole := leading.toNat + 1
      digits.take whole ++ '.' :: digits.drop whole
    else ['0', '.'] ++ List.replicate (-leading - 1).toNat '0' ++ digits
  else
    match digits with
    | [] => []
    | [digit] => digit :: 'e' :: exponentText leading
    | digit :: rest => digit :: '.' :: rest ++ 'e' :: exponentText leading

def Double.text (style : Style) (value : Double) : List Char :=
  let sign := if value.negative then ['-'] else []
  if value.magnitude.mantissa = 0 then sign ++ ['0', '.', '0']
  else sign ++ value.magnitude.shortest.text style

end NodeGen.Decimal
