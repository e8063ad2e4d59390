import NodeGen.Decimal.Text

/-! JSON values. Objects keep the order of their keys. -/

set_option autoImplicit false

namespace NodeGen.Json

/-- Values over a type of numbers. -/
inductive Tree (ν : Type) where
  | null
  | bool (value : Bool)
  | number (value : ν)
  | string (value : String)
  | array (items : List (Tree ν))
  | object (fields : List (String × Tree ν))

/-- A number that is written without point and exponent and fits in 64 bits is an integer. -/
inductive Number where
  | integer (value : Int)
  | float (value : Decimal.Double)
  deriving DecidableEq, Repr

def Number.text : Number → List Char
  | .integer value =>
    if value < 0 then '-' :: Nat.toDigits 10 value.natAbs else Nat.toDigits 10 value.natAbs
  | .float value => value.text .json

abbrev Value : Type :=
  Tree Number

namespace Tree

variable {ν : Type}

/-- The value of a key gives way to a new one in its place; a new key comes last. -/
def insertField (key : String) (value : Tree ν) :
    List (String × Tree ν) → List (String × Tree ν)
  | [] => [(key, value)]
  | field :: rest =>
    if field.1 = key then (key, value) :: rest else field :: insertField key value rest

def field? (fields : List (String × Tree ν)) (key : String) : Option (Tree ν) :=
  (fields.find? (·.1 == key)).map (·.2)

/-- One value for each key, at the place of its first occurrence and with its last value. -/
def ofFields (fields : List (String × Tree ν)) : Tree ν :=
  .object (fields.foldl (fun known field => insertField field.1 field.2 known) [])

end Tree

end NodeGen.Json
