import NodeGen.Json.Fault

/-! Reading of the parts of a JSON text: space, words, strings and numbers. Every reader takes the
text that is left and returns what it read with the rest. -/

set_option autoImplicit false

namespace NodeGen.Json

/-- What a reader gives: a value and the rest of the text, or a fault. -/
abbrev Result (α : Type) : Type :=
  Except Fault (α × List Char)

def isSpace (char : Char) : Bool :=
  char == ' ' || char == '\n' || char == '\t' || char == '\r'

def skipSpace (text : List Char) : List Char :=
  text.dropWhile isSpace

/-- Reads the letters that are left of a word. -/
def readWord : List Char → List Char → Except Fault (List Char)
  | [], text => .ok text
  | _ :: _, [] => .error (.read .endInValue [])
  | letter :: letters, char :: rest =>
    if char = letter then readWord letters rest else .error (.next .expectedWord (char :: rest))

def hexDigit? (char : Char) : Option Nat :=
  if char.isDigit then some (char.toNat - '0'.toNat)
  else if 'a' ≤ char && char ≤ 'f' then some (char.toNat - 'a'.toNat + 10)
  else if 'A' ≤ char && char ≤ 'F' then some (char.toNat - 'A'.toNat + 10)
  else none

def hexUnit? : List Char → Option (Nat × List Char)
  | a :: b :: c :: d :: rest => do
    let a ← hexDigit? a
    let b ← hexDigit? b
    let c ← hexDigit? c
    let d ← hexDigit? d
    return (((a * 16 + b) * 16 + c) * 16 + d, rest)
  | _ => none

/-- The four digits of a `\u` escape; the fault counts four bytes as read, whatever they are. -/
def readHexUnit (text : List Char) : Result Nat :=
  match hexUnit? text with
  | some unit => .ok unit
  | none =>
    if byteCount text < 4 then .error (.read .endInString [])
    else .error ⟨.invalidEscape, [], text, 4⟩

def isHighSurrogate (unit : Nat) : Bool :=
  0xD800 ≤ unit && unit ≤ 0xDBFF

def isLowSurrogate (unit : Nat) : Bool :=
  0xDC00 ≤ unit && unit ≤ 0xDFFF

/-- The character of a `\u` escape after these two letters; one beyond 16 bits takes two escapes. -/
def readCodePoint (text : List Char) : Except Fault (Char × List Char) := do
  let (unit, rest) ← readHexUnit text
  if isLowSurrogate unit then .error (.read .loneSurrogate rest)
  else if isHighSurrogate unit then
    match rest with
    | [] => .error (.read .endInString [])
    | '\\' :: [] => .error (.read .endInString [])
    | '\\' :: 'u' :: more =>
      let (low, rest) ← readHexUnit more
      if isLowSurrogate low then
        .ok (Char.ofNat (0x10000 + (unit - 0xD800) * 0x400 + (low - 0xDC00)), rest)
      else .error (.read .loneSurrogate rest)
    | '\\' :: more => .error (.next .endOfHexEscape more)
    | other => .error (.next .endOfHexEscape other)
  else .ok (Char.ofNat unit, rest)

/-- The character that a letter after a backslash stands for. -/
def escaped? : Char → Option Char
  | '"' => some '"'
  | '\\' => some '\\'
  | '/' => some '/'
  | 'b' => some '\x08'
  | 'f' => some '\x0c'
  | 'n' => some '\n'
  | 'r' => some '\r'
  | 't' => some '\t'
  | _ => none

/-- The character of an escape, after the backslash. -/
def readEscape : List Char → Result Char
  | [] => .error (.read .endInString [])
  | 'u' :: rest => readCodePoint rest
  | letter :: rest =>
    match escaped? letter with
    | some char => .ok (char, rest)
    | none => .error (.next .invalidEscape (letter :: rest))

/-- The text up to the closing quote, in at most `fuel` characters; `done` holds the characters
read so far, last first. -/
def readStringLoop : Nat → List Char → List Char → Result String
  | 0, _, text => .error (.read .endInString text)
  | _ + 1, _, [] => .error (.read .endInString [])
  | fuel + 1, done, char :: rest =>
    if char = '"' then .ok (String.ofList done.reverse, rest)
    else if char = '\\' then
      match readEscape rest with
      | .ok (char, rest) => readStringLoop fuel (char :: done) rest
      | .error fault => .error fault
    else if char.toNat < 0x20 then .error (.next .controlCharacter (char :: rest))
    else readStringLoop fuel (char :: done) rest

/-- A string, after its opening quote. -/
def readString (text : List Char) : Result String :=
  readStringLoop (text.length + 1) [] text

def digitValue (char : Char) : Nat :=
  char.toNat - '0'.toNat

/-- Appends digits to a significand while it fits in 64 bits, and counts them. -/
def absorbDigits (significand count : Nat) : List Char → Nat × Nat × List Char
  | [] => (significand, count, [])
  | char :: rest =>
    if char.isDigit && significand * 10 + digitValue char < Nat.pow 2 64 then
      absorbDigits (significand * 10 + digitValue char) (count + 1) rest
    else (significand, count, char :: rest)

/-- Division by a power of ten, 308 places at a time, since no greater power is a binary number. -/
def scaleDown : Nat → Decimal.Binary → Nat → Decimal.Binary
  | 0, value, _ => value
  | steps + 1, value, places =>
    if places ≤ 308 then value.div ((Decimal.Binary.ofNat (Nat.pow 10 places)).getD .zero)
    else if value.mantissa = 0 then value
    else
      scaleDown steps (value.div ((Decimal.Binary.ofNat (Nat.pow 10 308)).getD .zero))
        (places - 308)

/-- `significand * 10 ^ exponent`, where the significand and the product are rounded in turn. A
product that is too large for a binary number is refused. -/
def scale? (significand : Nat) (exponent : Int) : Option Decimal.Binary := do
  let value ← Decimal.Binary.ofNat significand
  if exponent < 0 then return scaleDown 4 value exponent.natAbs
  else if exponent ≤ 308 then value.mul (← Decimal.Binary.ofNat (Nat.pow 10 exponent.natAbs))
  else if significand = 0 then return .zero
  else none

def floatResult (negative : Bool) (significand : Nat) (exponent : Int) (rest : List Char) :
    Result Number :=
  match scale? significand exponent with
  | some magnitude => .ok (.float ⟨negative, magnitude⟩, rest)
  | none => .error (.read .numberOutOfRange rest)

/-- The digits of an exponent, as far as the value stays below 2 ^ 31. -/
def absorbExponent (exponent : Nat) : List Char → Nat × List Char
  | [] => (exponent, [])
  | char :: rest =>
    if char.isDigit && exponent * 10 + digitValue char < Nat.pow 2 31 then
      absorbExponent (exponent * 10 + digitValue char) rest
    else (exponent, char :: rest)

/-- The exponent after its mark; `shift` counts the places that the significand is off by. -/
def readExponent (negative : Bool) (significand : Nat) (shift : Int) (text : List Char) :
    Result Number :=
  let (minus, text) :=
    match text with
    | '+' :: rest => (false, rest)
    | '-' :: rest => (true, rest)
    | _ => (false, text)
  match text with
  | [] => .error (.read .endInValue [])
  | char :: _ =>
    if !char.isDigit then .error (.next .invalidNumber text)
    else
      let (exponent, rest) := absorbExponent 0 text
      match rest with
      | char :: more =>
        if char.isDigit then
          if significand ≠ 0 && !minus then .error (.read .numberOutOfRange more)
          else .ok (.float ⟨negative, .zero⟩, more.dropWhile Char.isDigit)
        else
          floatResult negative significand
            (if minus then shift - exponent else shift + exponent) rest
      | [] =>
        floatResult negative significand
          (if minus then shift - exponent else shift + exponent) rest

/-- What may follow the digits before or behind the point: an exponent or the end. -/
def readScaled (negative : Bool) (significand : Nat) (shift : Int) :
    List Char → Result Number
  | char :: rest =>
    if char = 'e' || char = 'E' then readExponent negative significand shift rest
    else floatResult negative significand shift (char :: rest)
  | [] => floatResult negative significand shift []

/-- The digits behind the point. -/
def readFraction (negative : Bool) (significand : Nat) (shift : Int) :
    List Char → Result Number
  | [] => .error (.next .endInValue [])
  | char :: rest =>
    if !char.isDigit then .error (.next .invalidNumber (char :: rest))
    else
      let (significand, count, rest) := absorbDigits significand 0 (char :: rest)
      readScaled negative significand (shift - count) (rest.dropWhile Char.isDigit)

def integerResult (negative : Bool) (significand : Nat) : Number :=
  if !negative then .integer significand
  else if significand ≠ 0 && significand ≤ Nat.pow 2 63 then .integer (-(significand : Int))
  else .float ⟨true, (Decimal.Binary.ofNat significand).getD .zero⟩

/-- What may follow the digits before the point, where `dropped` of them did not fit. -/
def readTail (negative : Bool) (significand dropped : Nat) (text : List Char) : Result Number :=
  match text with
  | '.' :: rest => readFraction negative significand dropped rest
  | char :: rest =>
    if char = 'e' || char = 'E' then readExponent negative significand dropped rest
    else if dropped = 0 then .ok (integerResult negative significand, char :: rest)
    else floatResult negative significand dropped (char :: rest)
  | [] =>
    if dropped = 0 then .ok (integerResult negative significand, [])
    else floatResult negative significand dropped []

/-- A number, after its sign. -/
def readNumber (negative : Bool) (text : List Char) : Result Number :=
  match text with
  | [] => .error (.read .endInValue [])
  | char :: rest =>
    if !char.isDigit then .error (.next .invalidNumber text)
    else if char = '0' then
      match rest with
      | [] => readTail negative 0 0 []
      | second :: _ =>
        if second.isDigit then .error (.next .invalidNumber rest)
        else readTail negative 0 0 rest
    else
      let (significand, _, rest) := absorbDigits 0 0 text
      let dropped := (rest.takeWhile Char.isDigit).length
      readTail negative significand dropped (rest.dropWhile Char.isDigit)

/-- What stands at the head of a text without space before it. Scalars are read completely; lists
and objects are not entered. -/
def readKind (text : List Char) : Result Kind :=
  match text with
  | 'n' :: rest => (readWord ['u', 'l', 'l'] rest).map fun rest => (.null, rest)
  | 't' :: rest => (readWord ['r', 'u', 'e'] rest).map fun rest => (.boolean true, rest)
  | 'f' :: rest => (readWord ['a', 'l', 's', 'e'] rest).map fun rest => (.boolean false, rest)
  | '"' :: rest => (readString rest).map fun (value, rest) => (.string value, rest)
  | '[' :: _ => .ok (.sequence, text)
  | '\x7b' :: _ => .ok (.map, text)
  | '-' :: rest => (readNumber true rest).map fun (value, rest) => (.number value, rest)
  | [] => .error (.next .endInValue [])
  | char :: _ =>
    if char.isDigit then (readNumber false text).map fun (value, rest) => (.number value, rest)
    else .error (.next .expectedValue text)

/-- The start of the next item of a list, or the end of the list with what follows it. -/
def nextItem (first : Bool) (text : List Char) : Result Bool :=
  match skipSpace text with
  | [] => .error (.next .endInList [])
  | ']' :: rest => .ok (false, rest)
  | char :: rest =>
    if first then .ok (true, char :: rest)
    else if char = ',' then
      match skipSpace rest with
      | [] => .error (.next .endInValue [])
      | ']' :: rest => .error (.next .trailingComma (']' :: rest))
      | other => .ok (true, other)
    else .error (.next .expectedListEnd (char :: rest))

/-- The next key of an object, or the end of the object with what follows it. -/
def nextKey (first : Bool) (text : List Char) : Result (Option String) :=
  match skipSpace text with
  | [] => .error (.next .endInObject [])
  | '\x7d' :: rest => .ok (none, rest)
  | char :: rest =>
    if first then
      if char = '"' then (readString rest).map fun (key, rest) => (some key, rest)
      else .error (.next .keyNotString (char :: rest))
    else if char = ',' then
      match skipSpace rest with
      | [] => .error (.next .endInValue [])
      | '"' :: rest => (readString rest).map fun (key, rest) => (some key, rest)
      | '\x7d' :: rest => .error (.next .trailingComma ('\x7d' :: rest))
      | other => .error (.next .keyNotString other)
    else .error (.next .expectedObjectEnd (char :: rest))

def readColon (text : List Char) : Except Fault (List Char) :=
  match skipSpace text with
  | [] => .error (.next .endInObject [])
  | ':' :: rest => .ok rest
  | other => .error (.next .expectedColon other)

/-- Places the faults of a part inside the whole. -/
def within {α : Type} (segment : Segment) (result : Except Fault α) : Except Fault α :=
  result.mapError (Fault.inside segment)

/-- The items of a list after its opening bracket, in at most `fuel` steps; `done` holds the items
read so far, last first. -/
def readItems {α : Type} (item : List Char → Result α) :
    Nat → List α → List Char → Except Fault (List α × List Char)
  | 0, _, text => .error (.read .endInList text)
  | fuel + 1, done, text => do
    match ← nextItem done.isEmpty text with
    | (false, rest) => .ok (done.reverse, rest)
    | (true, rest) =>
      let (value, rest) ← within (.index done.length) (item rest)
      readItems item fuel (value :: done) rest

/-- The entries of an object after its opening brace, in at most `fuel` steps; `done` holds the
entries read so far, last first. -/
def readEntries {α : Type} (item : List Char → Result α) :
    Nat → List (String × α) → List Char → Except Fault (List (String × α) × List Char)
  | 0, _, text => .error (.read .endInObject text)
  | fuel + 1, done, text => do
    match ← within .unreadKey (nextKey done.isEmpty text) with
    | (none, rest) => .ok (done.reverse, rest)
    | (some key, rest) =>
      let rest ← readColon rest
      let (value, rest) ← within (.key key) (item rest)
      readEntries item fuel ((key, value) :: done) rest

end NodeGen.Json
