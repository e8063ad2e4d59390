import NodeGen.Json.Scan

/-! The tokens of a query. Texts between quotes are cut into pieces of plain text and insertions,
whose tokens stand between `insertStart` and `insertEnd`. -/

set_option autoImplicit false

namespace NodeGen.Query

inductive Token where
  | word (name : String)
  /-- A name after a point. -/
  | field (name : String)
  | variable (name : String)
  | number (digits : List Char)
  | symbol (text : String)
  | quoteStart
  | chunk (text : List Char)
  | insertStart
  | insertEnd
  | quoteEnd
  deriving DecidableEq, Repr

namespace Token

def startsName (char : Char) : Bool :=
  char.isAlpha || char == '_'

def continuesName (char : Char) : Bool :=
  char.isAlphanum || char == '_'

/-- The exponent of a number, if one follows. -/
def exponentLength (text : List Char) : Nat :=
  match text with
  | mark :: rest =>
    if mark = 'e' || mark = 'E' then
      let sign := (rest.take 1).takeWhile fun char => char == '+' || char == '-'
      let digits := (rest.drop sign.length).takeWhile Char.isDigit
      if digits.isEmpty then 0 else 1 + sign.length + digits.length
    else 0
  | [] => 0

/-- The length of the number at the head of a text that starts with a digit. Digits have to follow
a point. -/
def numberLength? (text : List Char) : Option Nat := do
  let whole := (text.takeWhile Char.isDigit).length
  let fraction ←
    match text.drop whole with
    | '.' :: rest =>
      let digits := (rest.takeWhile Char.isDigit).length
      if digits = 0 then none else some (1 + digits)
    | _ => some 0
  return whole + fraction + exponentLength (text.drop (whole + fraction))

/-- The character of an escape, after the backslash. Characters beyond 16 bits have none. -/
def readEscape? : List Char → Option (Char × List Char)
  | [] => none
  | 'u' :: rest => do
    let (unit, rest) ← Json.hexUnit? rest
    if Json.isHighSurrogate unit || Json.isLowSurrogate unit then none
    else some (Char.ofNat unit, rest)
  | letter :: rest => (Json.escaped? letter).map fun char => (char, rest)

/-- Symbols of several characters, longer ones first. -/
def longSymbols : List String :=
  ["//=", "==", "!=", "<=", ">=", "//", "|=", "+=", "-=", "*=", "/=", "%=", "..", "?//"]

def shortSymbols : List Char :=
  ['.', '|', ',', '(', ')', '[', ']', '\x7b', '\x7d', ':', ';', '?', '=', '<', '>', '+', '-', '*',
    '/', '%']

def symbolAt? (text : List Char) : Option String :=
  match longSymbols.find? fun spelling => spelling.toList.isPrefixOf text with
  | some spelling => some spelling
  | none =>
    match text with
    | char :: _ => if char ∈ shortSymbols then some (String.singleton char) else none
    | [] => none

/-- Reads tokens in at most `fuel` steps. `depths` holds, for each insertion that the rest is inside
of, the number of brackets opened in it, innermost first; `quoted` tells that plain text comes
next. -/
def scanLoop : Nat → List Nat → Bool → List Token → List Char → Option (List Token)
  | 0, _, _, _, _ => none
  | fuel + 1, depths, true, done, text =>
    match text with
    | [] => none
    | '"' :: rest => scanLoop fuel depths false (.quoteEnd :: done) rest
    | '\\' :: '(' :: rest => scanLoop fuel (0 :: depths) false (.insertStart :: done) rest
    | '\\' :: rest =>
      match readEscape? rest with
      | some (char, rest) => scanLoop fuel depths true (.chunk [char] :: done) rest
      | none => none
    | char :: rest =>
      let plain := (char :: rest).takeWhile fun char => char != '"' && char != '\\'
      scanLoop fuel depths true (.chunk plain :: done) ((char :: rest).drop plain.length)
  | fuel + 1, depths, false, done, text =>
    match text with
    | [] => if depths.isEmpty then some done.reverse else none
    | '"' :: rest => scanLoop fuel depths true (.quoteStart :: done) rest
    | '#' :: rest => scanLoop fuel depths false done (rest.dropWhile (· != '\n'))
    | '$' :: rest =>
      let name := rest.takeWhile continuesName
      if (name.head?.map startsName).getD false then
        scanLoop fuel depths false (.variable (String.ofList name) :: done) (rest.drop name.length)
      else none
    | char :: rest =>
      if Json.isSpace char then scanLoop fuel depths false done rest
      else if startsName char then
        let name := text.takeWhile continuesName
        scanLoop fuel depths false (.word (String.ofList name) :: done) (text.drop name.length)
      else if char.isDigit then
        match numberLength? text with
        | none => none
        | some length =>
          scanLoop fuel depths false (.number (text.take length) :: done) (text.drop length)
      else if char = '.' && (rest.head?.map startsName).getD false then
        let name := rest.takeWhile continuesName
        scanLoop fuel depths false (.field (String.ofList name) :: done) (rest.drop name.length)
      else
        match symbolAt? text with
        | none => none
        | some spelling =>
          let rest := text.drop spelling.length
          let token := Token.symbol spelling
          match spelling, depths with
          | "(", depth :: outer => scanLoop fuel ((depth + 1) :: outer) false (token :: done) rest
          | ")", 0 :: outer => scanLoop fuel outer true (.insertEnd :: done) rest
          | ")", (depth + 1) :: outer => scanLoop fuel (depth :: outer) false (token :: done) rest
          | _, _ => scanLoop fuel depths false (token :: done) rest

/-- The tokens of a text, unless it holds something that is none. -/
def scan (text : List Char) : Option (List Token) :=
  scanLoop (2 * text.length + 2) [] false [] text

end Token

end NodeGen.Query
