import NodeGen.Json.Value
import NodeGen.Text.Quoted

/-! Faults of a JSON text or of a value that stands where another kind is wanted: what is wrong, on
which path, and at which line and column. -/

set_option autoImplicit false

namespace NodeGen.Json

/-- What stands in a place, as a report names it. -/
inductive Kind where
  | null
  | boolean (value : Bool)
  | number (value : Number)
  | string (value : String)
  | sequence
  | map
  deriving DecidableEq, Repr

def Kind.text : Kind → String
  | .null => "null"
  | .boolean true => "boolean `true`"
  | .boolean false => "boolean `false`"
  | .number (.integer value) => "integer `" ++ String.ofList (Number.integer value).text ++ "`"
  | .number (.float value) =>
      "floating point `" ++ String.ofList (Number.float value).text ++ "`"
  | .string value => "string " ++ Text.quoted value
  | .sequence => "sequence"
  | .map => "map"

def Tree.kind : Value → Kind
  | .null => .null
  | .bool value => .boolean value
  | .number value => .number value
  | .string value => .string value
  | .array _ => .sequence
  | .object _ => .map

inductive Problem where
  | endInValue
  | endInString
  | endInList
  | endInObject
  | expectedValue
  | expectedWord
  | invalidNumber
  | numberOutOfRange
  | controlCharacter
  | invalidEscape
  | loneSurrogate
  | endOfHexEscape
  | keyNotString
  | trailingComma
  | expectedListEnd
  | expectedObjectEnd
  | expectedColon
  | trailingCharacters
  | tooDeep
  | wrongKind (found : Kind) (wanted : String)
  | unknownField (name : String) (known : List String)
  | duplicateField (name : String)
  | tooLong (count : Nat)
  deriving DecidableEq, Repr

namespace Problem

def message : Problem → String
  | endInValue => "EOF while parsing a value"
  | endInString => "EOF while parsing a string"
  | endInList => "EOF while parsing a list"
  | endInObject => "EOF while parsing an object"
  | expectedValue => "expected value"
  | expectedWord => "expected ident"
  | invalidNumber => "invalid number"
  | numberOutOfRange => "number out of range"
  | controlCharacter =>
      "control character (\\u0000-\\u001F) found while parsing a string"
  | invalidEscape => "invalid escape"
  | loneSurrogate => "lone leading surrogate in hex escape"
  | endOfHexEscape => "unexpected end of hex escape"
  | keyNotString => "key must be a string"
  | trailingComma => "trailing comma"
  | expectedListEnd => "expected `,` or `]`"
  | expectedObjectEnd => "expected `,` or `\x7d`"
  | expectedColon => "expected `:`"
  | trailingCharacters => "trailing characters"
  | tooDeep => "recursion limit exceeded"
  | wrongKind found wanted => "invalid type: " ++ found.text ++ ", expected " ++ wanted
  | unknownField name known =>
      "unknown field `" ++ name ++ "`, expected one of " ++
        String.intercalate ", " (known.map fun field => "`" ++ field ++ "`")
  | duplicateField name => "duplicate field `" ++ name ++ "`"
  | tooLong count =>
      "invalid length " ++ String.ofList (Nat.toDigits 10 count) ++
        ", expected fewer elements in array"

end Problem

inductive Segment where
  | key (name : String)
  | index (position : Nat)
  /-- The place of a key that could not be read. -/
  | unreadKey
  deriving DecidableEq, Repr

/-- Segments from the outermost inwards. -/
abbrev Path : Type :=
  List Segment

namespace Path

def segmentsText (separator : String) : Path → String
  | [] => ""
  | .key name :: rest => separator ++ name ++ segmentsText "." rest
  | .unreadKey :: rest => separator ++ "?" ++ segmentsText "." rest
  | .index position :: rest =>
    "[" ++ String.ofList (Nat.toDigits 10 position) ++ "]" ++ segmentsText "." rest

def text : Path → String
  | [] => "."
  | path => segmentsText "" path

end Path

/-- A place in a text: `column` counts the bytes since the start of the line. -/
structure Position where
  line : Nat
  column : Nat
  deriving DecidableEq, Repr

/-- The place `count` bytes behind a place that `text` follows. -/
def Position.advance (position : Position) (count : Nat) : List Char → Position
  | [] => position
  | char :: rest =>
    if count = 0 then position
    else if char = '\n' then Position.advance ⟨position.line + 1, 0⟩ (count - 1) rest
    else if count < char.utf8Size then ⟨position.line, position.column + count⟩
    else
      Position.advance ⟨position.line, position.column + char.utf8Size⟩
        (count - char.utf8Size) rest

def byteCount (text : List Char) : Nat :=
  text.foldr (fun char count => char.utf8Size + count) 0

/-- A fault met while reading: the text that was left, and how many of its bytes count as read. -/
structure Fault where
  problem : Problem
  path : Path
  rest : List Char
  ahead : Nat
  deriving DecidableEq, Repr

namespace Fault

/-- A fault found in what was read already. -/
def read (problem : Problem) (rest : List Char) : Fault :=
  ⟨problem, [], rest, 0⟩

/-- A fault found in the byte that comes next. -/
def next (problem : Problem) (rest : List Char) : Fault :=
  ⟨problem, [], rest, 1⟩

def inside (segment : Segment) (fault : Fault) : Fault :=
  { fault with path := segment :: fault.path }

def position (fault : Fault) (text : List Char) : Position :=
  let count := byteCount text - byteCount fault.rest + min fault.ahead (byteCount fault.rest)
  Position.advance ⟨1, 0⟩ count text

end Fault

/-- A fault as it is reported, with what is known of its place. -/
structure Report where
  path : Option Path
  problem : Problem
  position : Option Position
  deriving DecidableEq, Repr

def Position.text (position : Position) : String :=
  " at line " ++ String.ofList (Nat.toDigits 10 position.line) ++
    " column " ++ String.ofList (Nat.toDigits 10 position.column)

def Report.message (report : Report) : String :=
  let path :=
    match report.path with
    | none => ""
    | some path => "at JSON path " ++ path.text ++ " → "
  let place :=
    match report.position with
    | none => ""
    | some position => position.text
  path ++ report.problem.message ++ place

end NodeGen.Json
