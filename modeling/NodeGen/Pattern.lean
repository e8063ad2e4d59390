/-! Patterns of file names: `?` stands for one character, `*` for any number of them, `[...]` for one
of a class and `[!...]` for one outside it. Two stars are a pattern only as a whole component, where
they stand for any number of directories. -/

set_option autoImplicit false

namespace NodeGen

/-- A member of a class: the characters from one to another. -/
structure CharRange where
  first : Char
  last : Char
  deriving DecidableEq, Repr

inductive PatternToken where
  | char (value : Char)
  | anyChar
  | anySequence
  /-- Any number of whole components. -/
  | anyComponents
  | oneOf (ranges : List CharRange)
  | noneOf (ranges : List CharRange)
  deriving DecidableEq, Repr

inductive PatternProblem where
  | tooManyStars
  | starsInComponent
  | unclosedClass
  deriving DecidableEq, Repr

/-- A fault in a pattern and the number of characters before it. -/
structure PatternError where
  position : Nat
  problem : PatternProblem
  deriving DecidableEq, Repr

def PatternError.message (error : PatternError) : String :=
  let problem :=
    match error.problem with
    | .tooManyStars => "wildcards are either regular `*` or recursive `**`"
    | .starsInComponent => "recursive wildcards must form a single path component"
    | .unclosedClass => "invalid range pattern"
  "Pattern syntax error near position " ++ String.ofList (Nat.toDigits 10 error.position) ++ ": " ++
    problem

abbrev Pattern : Type :=
  List PatternToken

namespace Pattern

/-- The members of a class; a dash between two characters makes a range of them. -/
def ranges : List Char → List CharRange
  | first :: '-' :: last :: rest => ⟨first, last⟩ :: ranges rest
  | char :: rest => ⟨char, char⟩ :: ranges rest
  | [] => []

/-- The members of a class and what follows it. The first member is never the closing bracket. -/
def splitClass : List Char → Option (List Char × List Char)
  | [] => none
  | first :: rest =>
    match rest.dropWhile (· != ']') with
    | [] => none
    | _ :: after => some (first :: rest.takeWhile (· != ']'), after)

/-- A class after its opening bracket, and what follows it. -/
def parseClass : List Char → Option (PatternToken × List Char)
  | '!' :: rest => (splitClass rest).map fun (members, after) => (.noneOf (ranges members), after)
  | text => (splitClass text).map fun (members, after) => (.oneOf (ranges members), after)

/-- Reads a pattern in at most `fuel` steps; `previous` is the character before the rest, which
stands at `position`. -/
def parseLoop : Nat → Option Char → Nat → List Char → Except PatternError Pattern
  | 0, _, _, _ => .ok []
  | _ + 1, _, _, [] => .ok []
  | fuel + 1, previous, position, char :: rest =>
    if char = '?' then (parseLoop fuel (some char) (position + 1) rest).map (.anyChar :: ·)
    else if char = '*' then
      let stars := (char :: rest).takeWhile (· == '*')
      let after := (char :: rest).dropWhile (· == '*')
      let next := position + stars.length
      if stars.length = 1 then
        (parseLoop fuel (some '*') next after).map (.anySequence :: ·)
      else if 2 < stars.length then .error ⟨position + 2, .tooManyStars⟩
      else if previous = none || previous = some '/' then
        match after with
        | [] => .ok [.anyComponents]
        | '/' :: more => (parseLoop fuel (some '/') (next + 1) more).map (.anyComponents :: ·)
        | _ => .error ⟨next, .starsInComponent⟩
      else .error ⟨position - 1, .starsInComponent⟩
    else if char = '[' then
      match parseClass rest with
      | none => .error ⟨position, .unclosedClass⟩
      | some (token, after) =>
        (parseLoop fuel (some ']') (position + 1 + rest.length - after.length) after).map (token :: ·)
    else (parseLoop fuel (some char) (position + 1) rest).map (.char char :: ·)

def parse (text : List Char) : Except PatternError Pattern :=
  parseLoop (text.length + 1) none 0 text

def CharRange.holds (range : CharRange) (char : Char) : Bool :=
  range.first ≤ char && char ≤ range.last

/-- A token that stands for one character. -/
def tokenHolds (token : PatternToken) (char : Char) : Bool :=
  match token with
  | .char value => value == char
  | .anyChar => true
  | .oneOf ranges => ranges.any fun range => CharRange.holds range char
  | .noneOf ranges => !ranges.any fun range => CharRange.holds range char
  | .anySequence | .anyComponents => false

/-- Some end of the text satisfies the rest of the pattern. -/
def matchesEnd (rest : List Char → Bool) : List Char → Bool
  | [] => rest []
  | char :: text => rest (char :: text) || matchesEnd rest text

/-- A name, which holds no slash, fits a pattern. -/
def matchesName : Pattern → List Char → Bool
  | [], text => text.isEmpty
  | .anySequence :: rest, text => matchesEnd (matchesName rest) text
  | .anyComponents :: rest, text => matchesEnd (matchesName rest) text
  | token :: rest, text =>
    match text with
    | [] => false
    | char :: text => tokenHolds token char && matchesName rest text

def isRecursive (pattern : Pattern) : Bool :=
  pattern.contains .anyComponents

def isLiteral (pattern : Pattern) : Bool :=
  pattern.all fun token =>
    match token with
    | .char _ => true
    | _ => false

end Pattern

/-- A text that is a pattern and not the path of a single file. -/
def isPatternText (text : String) : Bool :=
  text.toList.any fun char => char == '*' || char == '?' || char == '[' || char == '\x7b'

end NodeGen
