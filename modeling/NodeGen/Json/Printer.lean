import NodeGen.Json.Value

/-! JSON texts of values: on one line, or with one item a line and two spaces for each level. -/

set_option autoImplicit false

namespace NodeGen.Json

def hexPair (code : Nat) : List Char :=
  [Nat.digitChar (code / 16 % 16), Nat.digitChar (code % 16)]

/-- Control characters below the space, quotes and backslashes are escaped, nothing else. -/
def escapeChar (char : Char) : List Char :=
  if char = '"' then ['\\', '"']
  else if char = '\\' then ['\\', '\\']
  else if char = '\n' then ['\\', 'n']
  else if char = '\r' then ['\\', 'r']
  else if char = '\t' then ['\\', 't']
  else if char = '\x08' then ['\\', 'b']
  else if char = '\x0c' then ['\\', 'f']
  else if char.toNat < 0x20 then ['\\', 'u', '0', '0'] ++ hexPair char.toNat
  else [char]

def stringText (value : String) : List Char :=
  '"' :: value.toList.flatMap escapeChar ++ ['"']

/-- How the parts of lists and objects are set off from each other. -/
structure Spacing where
  /-- What stands before an item at a depth. -/
  newline : Nat → List Char
  colon : List Char

def Spacing.compact : Spacing :=
  ⟨fun _ => [], [':']⟩

def Spacing.pretty : Spacing :=
  ⟨fun depth => '\n' :: List.replicate (2 * depth) ' ', [':', ' ']⟩

namespace Tree

variable {ν : Type}

mutual

def chars (spacing : Spacing) (number : ν → List Char) (depth : Nat) : Tree ν → List Char
  | .null => ['n', 'u', 'l', 'l']
  | .bool true => ['t', 'r', 'u', 'e']
  | .bool false => ['f', 'a', 'l', 's', 'e']
  | .number value => number value
  | .string value => stringText value
  | .array [] => ['[', ']']
  | .array (first :: rest) =>
    '[' :: spacing.newline (depth + 1) ++ chars spacing number (depth + 1) first ++
      itemsChars spacing number depth rest ++ spacing.newline depth ++ [']']
  | .object [] => ['\x7b', '\x7d']
  | .object ((key, value) :: rest) =>
    '\x7b' :: spacing.newline (depth + 1) ++ stringText key ++ spacing.colon ++
      chars spacing number (depth + 1) value ++ fieldsChars spacing number depth rest ++
      spacing.newline depth ++ ['\x7d']

/-- Items after the first one. -/
def itemsChars (spacing : Spacing) (number : ν → List Char) (depth : Nat) :
    List (Tree ν) → List Char
  | [] => []
  | item :: rest =>
    ',' :: spacing.newline (depth + 1) ++ chars spacing number (depth + 1) item ++
      itemsChars spacing number depth rest

/-- Fields after the first one. -/
def fieldsChars (spacing : Spacing) (number : ν → List Char) (depth : Nat) :
    List (String × Tree ν) → List Char
  | [] => []
  | (key, value) :: rest =>
    ',' :: spacing.newline (depth + 1) ++ stringText key ++ spacing.colon ++
      chars spacing number (depth + 1) value ++ fieldsChars spacing number depth rest

end

end Tree

def compact (value : Value) : String :=
  String.ofList (value.chars .compact Number.text 0)

def pretty (value : Value) : String :=
  String.ofList (value.chars .pretty Number.text 0)

end NodeGen.Json
