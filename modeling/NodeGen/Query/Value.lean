import NodeGen.Json.Printer
import NodeGen.Json.Reader

/-! Values that queries work on. Integers of 64 bits are exact; other numbers keep their text until
something is calculated with them. -/

set_option autoImplicit false

namespace NodeGen.Query

inductive Number where
  | int (value : Int)
  /-- A number in the text it was written in. -/
  | text (digits : List Char)
  | float (value : Decimal.Double)
  /-- A result beyond all floating-point numbers. -/
  | infinite (negative : Bool)
  deriving DecidableEq, Repr

abbrev Value : Type :=
  Json.Tree Number

def fitsInt (value : Int) : Bool :=
  -(Int.pow 2 63) ≤ value && value < Int.pow 2 63

namespace Number

/-- What is not finite is written as null. -/
def chars : Number → List Char
  | .int value => (Json.Number.integer value).text
  | .text digits => digits
  | .float value => value.text .json
  | .infinite _ => ['n', 'u', 'l', 'l']

/-- The number nearest to a quotient. -/
def ofRatio (num : Int) (den : Nat) : Number :=
  match Decimal.Binary.nearest num.natAbs den with
  | some magnitude => .float ⟨num < 0, magnitude⟩
  | none => .infinite (num < 0)

/-- An integer as long as it fits. -/
def ofInt (value : Int) : Number :=
  if fitsInt value then .int value else ofRatio value 1

def digitsValue (digits : List Char) : Nat :=
  digits.foldl (fun value digit => value * 10 + (digit.toNat - '0'.toNat)) 0

/-- The quotient that a text of digits, point and exponent stands for. Exponents beyond any
floating-point number are cut off. -/
def textRatio (text : List Char) : Int × Nat :=
  let negative := text.head? = some '-'
  let text := if negative then text.drop 1 else text
  let mantissa := text.takeWhile fun char => char != 'e' && char != 'E'
  let scale := (text.dropWhile fun char => char != 'e' && char != 'E').drop 1
  let minus := scale.head? = some '-'
  let magnitude := digitsValue (scale.filter Char.isDigit)
  let whole := mantissa.takeWhile (· != '.')
  let fraction := (mantissa.dropWhile (· != '.')).drop 1
  let digits := digitsValue (whole ++ fraction)
  let limit := 2000 + text.length
  let exponent : Int :=
    (if minus then -((min magnitude limit : Nat) : Int) else ((min magnitude limit : Nat) : Int)) -
      fraction.length
  let num := digits * Nat.pow 10 exponent.toNat
  (if negative then -(num : Int) else num, Nat.pow 10 (-exponent).toNat)

/-- The value as a quotient, rounded to a floating-point number unless it is an integer; none for
what is not finite. -/
def ratio? : Number → Option (Int × Nat)
  | .int value => some (value, 1)
  | .float value =>
    let (num, den) := value.magnitude.ratio
    some (if value.negative then -(num : Int) else num, den)
  | .infinite _ => none
  | .text digits =>
    let (num, den) := textRatio digits
    match Decimal.Binary.nearest num.natAbs den with
    | none => none
    | some magnitude =>
      let (top, bottom) := magnitude.ratio
      some (if num < 0 then -(top : Int) else top, bottom)

def isNegative : Number → Bool
  | .int value => value < 0
  | .float value => value.negative
  | .infinite negative => negative
  | .text digits => digits.head? == some '-'

def compare (left right : Number) : Ordering :=
  match left.ratio?, right.ratio? with
  | some (num, den), some (num', den') => Ord.compare (num * den') (num' * den)
  | none, some _ => if left.isNegative then .lt else .gt
  | some _, none => if right.isNegative then .gt else .lt
  | none, none => Ord.compare right.isNegative left.isNegative

def negate : Number → Number
  | .int value => ofInt (-value)
  | .float value => .float { value with negative := !value.negative }
  | .infinite negative => .infinite !negative
  | .text digits =>
    match (Number.text digits).ratio? with
    | some (num, den) => ofRatio (-num) den
    | none => .infinite !(digits.head? == some '-')

def abs (number : Number) : Number :=
  if number.isNegative then number.negate else number

/-- A calculation, exact on integers and rounded on other numbers. -/
def combine (calculate : Int × Nat → Int × Nat → Int × Nat) (left right : Number) : Number :=
  match left, right with
  | .int left, .int right => ofInt (calculate (left, 1) (right, 1)).1
  | _, _ =>
    match left.ratio?, right.ratio? with
    | some left, some right =>
      let (num, den) := calculate left right
      ofRatio num den
    | _, _ => .infinite (left.isNegative != right.isNegative)

def add : Number → Number → Number :=
  combine fun (num, den) (num', den') => (num * den' + num' * den, den * den')

def sub : Number → Number → Number :=
  combine fun (num, den) (num', den') => (num * den' - num' * den, den * den')

def mul : Number → Number → Number :=
  combine fun (num, den) (num', den') => (num * num', den * den')

end Number

def ofJsonNumber : Json.Number → Number
  | .integer value => if fitsInt value then .int value else .text (Json.Number.integer value).text
  | .float value => .text (value.text .json)

mutual

def ofJson : Json.Value → Value
  | .null => .null
  | .bool value => .bool value
  | .number value => .number (ofJsonNumber value)
  | .string value => .string value
  | .array items => .array (ofJsonItems items)
  | .object fields => .object (ofJsonFields fields)

def ofJsonItems : List Json.Value → List Value
  | [] => []
  | item :: rest => ofJson item :: ofJsonItems rest

def ofJsonFields : List (String × Json.Value) → List (String × Value)
  | [] => []
  | (key, value) :: rest => (key, ofJson value) :: ofJsonFields rest

end

/-- The text of a value on one line. -/
def compact (value : Value) : List Char :=
  value.chars .compact Number.chars 0

/-- Strings stand for themselves, other values for their text. -/
def plainText : Value → String
  | .string text => text
  | other => String.ofList (compact other)

def isTruthy : Value → Bool
  | .null => false
  | .bool false => false
  | _ => true

def typeName : Value → String
  | .null => "null"
  | .bool _ => "boolean"
  | .number _ => "number"
  | .string _ => "string"
  | .array _ => "array"
  | .object _ => "object"

mutual

/-- The fields of every object in the order of their keys. -/
def sortKeys : Value → Value
  | .array items => .array (sortKeysItems items)
  | .object fields =>
    .object ((sortKeysFields fields).mergeSort fun left right => left.1 ≤ right.1)
  | other => other

def sortKeysItems : List Value → List Value
  | [] => []
  | item :: rest => sortKeys item :: sortKeysItems rest

def sortKeysFields : List (String × Value) → List (String × Value)
  | [] => []
  | (key, value) :: rest => (key, sortKeys value) :: sortKeysFields rest

end

/-- The place of a type in the order of values. -/
def typeRank : Value → Nat
  | .null => 0
  | .bool _ => 1
  | .number _ => 2
  | .string _ => 3
  | .array _ => 4
  | .object _ => 5

mutual

/-- The order of values whose fields are in order: by type, then by content; objects by their keys
before their values. -/
def compareSorted : Value → Value → Ordering
  | .bool left, .bool right => Ord.compare left right
  | .number left, .number right => left.compare right
  | .string left, .string right => Ord.compare left right
  | .array left, .array right => compareItems left right
  | .object left, .object right =>
    (Ord.compare (left.map (·.1)) (right.map (·.1))).then (compareFields left right)
  | left, right => Ord.compare (typeRank left) (typeRank right)

def compareItems : List Value → List Value → Ordering
  | [], [] => .eq
  | [], _ :: _ => .lt
  | _ :: _, [] => .gt
  | left :: lefts, right :: rights =>
    (compareSorted left right).then (compareItems lefts rights)

def compareFields : List (String × Value) → List (String × Value) → Ordering
  | [], [] => .eq
  | [], _ :: _ => .lt
  | _ :: _, [] => .gt
  | (_, left) :: lefts, (_, right) :: rights =>
    (compareSorted left right).then (compareFields lefts rights)

end

def compare (left right : Value) : Ordering :=
  compareSorted (sortKeys left) (sortKeys right)

mutual

/-- A value and all values inside it, each before what it holds. -/
def descendants : Value → List Value
  | .array items => .array items :: itemsDescendants items
  | .object fields => .object fields :: fieldsDescendants fields
  | other => [other]

def itemsDescendants : List Value → List Value
  | [] => []
  | item :: rest => descendants item ++ itemsDescendants rest

def fieldsDescendants : List (String × Value) → List Value
  | [] => []
  | (_, value) :: rest => descendants value ++ fieldsDescendants rest

end

/-- The union of two objects; where both hold an object under a key, these are united too. -/
def mergeFields (left : List (String × Value)) : List (String × Value) → List (String × Value)
  | [] => left
  | (key, value) :: rest =>
    let merged : Value :=
      match Json.Tree.field? left key, value with
      | some (.object inner), .object fields => .object (mergeFields inner fields)
      | _, other => other
    mergeFields (Json.Tree.insertField key merged left) rest

end NodeGen.Query
