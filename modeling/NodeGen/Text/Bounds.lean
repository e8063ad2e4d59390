/-! Properties of characters, given by the code points at which they begin and end. -/

set_option autoImplicit false

namespace NodeGen.Text

/-- Increasing code points: the property is absent below the first, present from there up to the
second, and so on in turn. -/
def Bounds : Type :=
  List Nat

def Bounds.holds (bounds : Bounds) (char : Char) : Bool :=
  (List.takeWhile (· ≤ char.toNat) bounds).length % 2 == 1

end NodeGen.Text
