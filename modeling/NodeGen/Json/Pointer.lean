import NodeGen.Json.Value

/-! Pointers into JSON values: keys and indices, each after a slash. Within a step `~1` stands for a
slash and `~0` for a tilde. -/

set_option autoImplicit false

namespace NodeGen.Json.Pointer

/-- The steps of a text that starts with a slash. -/
def splitSteps : List Char → List (List Char)
  | [] => [[]]
  | char :: rest =>
    match splitSteps rest with
    | [] => [[char]]
    | step :: steps => if char = '/' then [] :: step :: steps else (char :: step) :: steps

/-- Puts `char` for each occurrence of a tilde before `mark`. -/
def replaceMark (mark char : Char) : List Char → List Char
  | [] => []
  | [last] => [last]
  | first :: second :: rest =>
    if first = '~' && second = mark then char :: replaceMark mark char rest
    else first :: replaceMark mark char (second :: rest)

/-- Slashes are put back first, so `~01` stands for `~1`. -/
def unescape (step : List Char) : List Char :=
  replaceMark '0' '~' (replaceMark '1' '/' step)

/-- Digits without sign and without leading zero. -/
def index? (step : List Char) : Option Nat :=
  match step with
  | [] => none
  | ['0'] => some 0
  | '0' :: _ => none
  | digits =>
    if digits.all Char.isDigit then
      some (digits.foldl (fun value digit => value * 10 + (digit.toNat - '0'.toNat)) 0)
    else none

def follow (value : Value) : List (List Char) → Option Value
  | [] => some value
  | step :: rest => do
    let inner ←
      match value with
      | .object fields => Tree.field? fields (String.ofList (unescape step))
      | .array items => do items[← index? (unescape step)]?
      | _ => none
    follow inner rest

/-- The empty pointer selects the whole value; every other pointer starts with a slash. -/
def select (pointer : String) (value : Value) : Option Value :=
  match pointer.toList with
  | [] => some value
  | '/' :: rest => follow value (splitSteps rest)
  | _ => none

end NodeGen.Json.Pointer
