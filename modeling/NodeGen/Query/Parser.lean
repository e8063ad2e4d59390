import NodeGen.Query.Filter
import NodeGen.Query.Token

/-! Reading of filters from tokens. From loose to tight the operators are `|`, `,`, assignments,
`//`, `or`, `and`, comparisons, `+` and `-`, `*`; a pipe, an assignment and `//` take all that they
can on their right. -/

set_option autoImplicit false

namespace NodeGen.Query

/-- An operator between two filters. -/
inductive Operator where
  | pipe
  | comma
  | assign
  | update
  | updateMath (op : MathOp)
  | alternative
  | either
  | both
  | compare (op : CompareOp)
  | math (op : MathOp)
  deriving DecidableEq, Repr

namespace Operator

def ofSymbol? : String → Option Operator
  | "|" => some .pipe
  | "," => some .comma
  | "=" => some .assign
  | "|=" => some .update
  | "+=" => some (.updateMath .add)
  | "-=" => some (.updateMath .sub)
  | "*=" => some (.updateMath .mul)
  | "//" => some .alternative
  | "==" => some (.compare .eq)
  | "!=" => some (.compare .ne)
  | "<" => some (.compare .lt)
  | "<=" => some (.compare .le)
  | ">" => some (.compare .gt)
  | ">=" => some (.compare .ge)
  | "+" => some (.math .add)
  | "-" => some (.math .sub)
  | "*" => some (.math .mul)
  | _ => none

def ofToken? : Token → Option Operator
  | .symbol text => ofSymbol? text
  | .word "and" => some .both
  | .word "or" => some .either
  | _ => none

/-- Tighter operators have greater levels. -/
def level : Operator → Nat
  | .pipe => 0
  | .comma => 1
  | .assign | .update | .updateMath _ => 2
  | .alternative => 3
  | .either => 4
  | .both => 5
  | .compare _ => 6
  | .math .add | .math .sub => 7
  | .math .mul => 8

/-- The least level of operators on the right side. -/
def rightLevel (op : Operator) : Nat :=
  match op with
  | .pipe | .assign | .update | .updateMath _ | .alternative => op.level
  | _ => op.level + 1

def apply (op : Operator) (left right : Filter) : Filter :=
  match op with
  | .pipe => .pipe left right
  | .comma => .comma left right
  | .assign => .assign left right
  | .update => .update left right
  | .updateMath op => .updateMath op left right
  | .alternative => .alternative left right
  | .either => .either left right
  | .both => .both left right
  | .compare op => .compare op left right
  | .math op => .math op left right

end Operator

/-- Words that cannot name a function. -/
def reservedWords : List String :=
  ["def", "if", "then", "elif", "else", "end", "as", "reduce", "foreach", "try", "catch", "and",
    "or", "label", "import", "include", "__loc__"]

/-- What a reader of tokens gives, if it can read. -/
abbrev Reads (α : Type) : Type :=
  Option (α × List Token)

def expectSymbol (text : String) : List Token → Option (List Token)
  | token :: rest => if token = .symbol text then some rest else none
  | [] => none

def expectWord (name : String) : List Token → Option (List Token)
  | token :: rest => if token = .word name then some rest else none
  | [] => none

/-- Question marks that follow, taken as one. -/
def readOptional (tokens : List Token) : Bool × List Token :=
  let rest := tokens.dropWhile (· == .symbol "?")
  (rest.length < tokens.length, rest)

/-- Numbers that are no integers of 64 bits keep their text. -/
def numberValue (digits : List Char) : Number :=
  if digits.all Char.isDigit then
    let value : Int := Number.digitsValue digits
    if fitsInt value then .int value else .text digits
  else .text digits

/-- Adds a part of a text to those before it. -/
def concatText (left right : Filter) : Filter :=
  .math .add left right

/-- Joins the fields of an object. -/
def joinFields : List Filter → Filter
  | [] => .literal (.object [])
  | first :: rest => rest.foldl (fun left right => .math .add left right) first

mutual

/-- A filter whose operators have at least the level `least`, in at most `fuel` calls. Without
`commas` a comma ends the filter. -/
def readFilter : Nat → Bool → Nat → List Token → Option (Filter × List Token)
  | 0, _, _, _ => none
  | fuel + 1, commas, least, tokens => do
    let (first, rest) ← readPostfix fuel tokens
    match rest with
    | .word "as" :: .variable name :: rest =>
      let rest ← expectSymbol "|" rest
      let (body, rest) ← readFilter fuel commas 0 rest
      return (.bind first name body, rest)
    | rest => readOperators fuel commas least first rest

/-- Operators and right sides after a left side. -/
def readOperators : Nat → Bool → Nat → Filter → List Token → Option (Filter × List Token)
  | 0, _, _, _, _ => none
  | fuel + 1, commas, least, left, tokens =>
    match tokens with
    | [] => some (left, [])
    | token :: rest =>
      match Operator.ofToken? token with
      | none => some (left, tokens)
      | some op =>
        if op.level < least || (op = .comma && !commas) then some (left, tokens)
        else do
          let (right, rest) ← readFilter fuel commas op.rightLevel rest
          readOperators fuel commas least (op.apply left right) rest

/-- A filter without operators, with the steps that follow it. -/
def readPostfix : Nat → List Token → Option (Filter × List Token)
  | 0, _ => none
  | fuel + 1, tokens => do
    let (base, rest) ← readAtom fuel tokens
    let (optional, rest) := readOptional rest
    let base := if optional then .attempt base .empty else base
    let (steps, rest) ← readSteps fuel rest
    match steps with
    | .done => return (base, rest)
    | steps => return (.path base steps, rest)

/-- Steps into a value, as many as follow. -/
def readSteps : Nat → List Token → Option (Steps × List Token)
  | 0, _ => none
  | fuel + 1, tokens =>
    match tokens with
    | .field name :: rest => do
      let (optional, rest) := readOptional rest
      let (steps, rest) ← readSteps fuel rest
      return (.index (.literal (.string name)) optional steps, rest)
    | .symbol "." :: .quoteStart :: rest => do
      let (key, rest) ← readText fuel (.literal (.string "")) rest
      let (optional, rest) := readOptional rest
      let (steps, rest) ← readSteps fuel rest
      return (.index key optional steps, rest)
    | .symbol "." :: .symbol "[" :: rest => readBracket fuel rest
    | .symbol "[" :: rest => readBracket fuel rest
    | _ => some (.done, tokens)

/-- A step between brackets, after the opening one, and the steps that follow. -/
def readBracket : Nat → List Token → Option (Steps × List Token)
  | 0, _ => none
  | fuel + 1, tokens =>
    match tokens with
    | .symbol "]" :: rest => do
      let (optional, rest) := readOptional rest
      let (steps, rest) ← readSteps fuel rest
      return (.iterate optional steps, rest)
    | .symbol ":" :: rest => do
      let (stop, rest) ← readFilter fuel true 0 rest
      let rest ← expectSymbol "]" rest
      let (optional, rest) := readOptional rest
      let (steps, rest) ← readSteps fuel rest
      return (.slice .none (.at stop) optional steps, rest)
    | tokens => do
      let (first, rest) ← readFilter fuel true 0 tokens
      match rest with
      | .symbol ":" :: .symbol "]" :: rest =>
        let (optional, rest) := readOptional rest
        let (steps, rest) ← readSteps fuel rest
        return (.slice (.at first) .none optional steps, rest)
      | .symbol ":" :: rest =>
        let (stop, rest) ← readFilter fuel true 0 rest
        let rest ← expectSymbol "]" rest
        let (optional, rest) := readOptional rest
        let (steps, rest) ← readSteps fuel rest
        return (.slice (.at first) (.at stop) optional steps, rest)
      | rest =>
        let rest ← expectSymbol "]" rest
        let (optional, rest) := readOptional rest
        let (steps, rest) ← readSteps fuel rest
        return (.index first optional steps, rest)

/-- The rest of a text between quotes, behind the part that `before` gives. -/
def readText : Nat → Filter → List Token → Option (Filter × List Token)
  | 0, _, _ => none
  | fuel + 1, before, tokens =>
    match tokens with
    | .quoteEnd :: rest => some (before, rest)
    | .chunk text :: rest =>
      let after :=
        match before with
        | .literal (.string known) => .literal (.string (known ++ String.ofList text))
        | other => concatText other (.literal (.string (String.ofList text)))
      readText fuel after rest
    | .insertStart :: rest => do
      let (inner, rest) ← readFilter fuel true 0 rest
      match rest with
      | .insertEnd :: rest =>
        readText fuel (concatText before (.pipe inner (.builtin .text))) rest
      | _ => none
    | _ => none

/-- Arguments of a function, after the opening bracket. -/
def readArguments : Nat → List Filter → List Token → Option (List Filter × List Token)
  | 0, _, _ => none
  | fuel + 1, done, tokens => do
    let (argument, rest) ← readFilter fuel true 0 tokens
    match rest with
    | .symbol ";" :: rest => readArguments fuel (argument :: done) rest
    | rest =>
      let rest ← expectSymbol ")" rest
      return ((argument :: done).reverse, rest)

/-- Fields of an object up to its closing brace. -/
def readFields : Nat → List Filter → List Token → Option (List Filter × List Token)
  | 0, _, _ => none
  | fuel + 1, done, tokens => do
    let (field, rest) ← readField fuel tokens
    match rest with
    | .symbol "," :: rest => readFields fuel (field :: done) rest
    | rest =>
      let rest ← expectSymbol "\x7d" rest
      return ((field :: done).reverse, rest)

/-- One field of an object. A key without a value takes the field of that name of the input, a
variable its own value. -/
def readField : Nat → List Token → Option (Filter × List Token)
  | 0, _ => none
  | fuel + 1, tokens =>
    match tokens with
    | .word name :: .symbol ":" :: rest => do
      let (value, rest) ← readFilter fuel false 0 rest
      return (.field (.literal (.string name)) value, rest)
    | .word name :: rest => some (.field (.literal (.string name)) (.key name), rest)
    | .variable name :: .symbol ":" :: rest => do
      let (value, rest) ← readFilter fuel false 0 rest
      return (.field (.variable name) value, rest)
    | .variable name :: rest => some (.field (.literal (.string name)) (.variable name), rest)
    | .quoteStart :: rest => do
      let (key, rest) ← readText fuel (.literal (.string "")) rest
      match rest with
      | .symbol ":" :: rest =>
        let (value, rest) ← readFilter fuel false 0 rest
        return (.field key value, rest)
      | rest => return (.field key (.path .identity (.index key false .done)), rest)
    | .symbol "(" :: rest => do
      let (key, rest) ← readFilter fuel true 0 rest
      let rest ← expectSymbol ")" rest
      let rest ← expectSymbol ":" rest
      let (value, rest) ← readFilter fuel false 0 rest
      return (.field key value, rest)
    | _ => none

/-- The rest of a conditional after the filter that holds if its condition does. -/
def readElse : Nat → List Token → Option (Filter × List Token)
  | 0, _ => none
  | fuel + 1, tokens =>
    match tokens with
    | .word "end" :: rest => some (.identity, rest)
    | .word "else" :: rest => do
      let (body, rest) ← readFilter fuel true 0 rest
      let rest ← expectWord "end" rest
      return (body, rest)
    | .word "elif" :: rest => readConditional fuel rest
    | _ => none

/-- A conditional after its first word. -/
def readConditional : Nat → List Token → Option (Filter × List Token)
  | 0, _ => none
  | fuel + 1, tokens => do
    let (condition, rest) ← readFilter fuel true 0 tokens
    let rest ← expectWord "then" rest
    let (yes, rest) ← readFilter fuel true 0 rest
    let (no, rest) ← readElse fuel rest
    return (.conditional condition yes no, rest)

/-- A filter without operators and steps. -/
def readAtom : Nat → List Token → Option (Filter × List Token)
  | 0, _ => none
  | fuel + 1, tokens =>
    match tokens with
    | .number digits :: rest => some (.literal (.number (numberValue digits)), rest)
    | .quoteStart :: rest => readText fuel (.literal (.string "")) rest
    | .variable name :: rest => some (.variable name, rest)
    | .symbol ".." :: rest => some (.descend, rest)
    | .field name :: rest => some (.identity, .field name :: rest)
    | .symbol "." :: .quoteStart :: rest =>
      some (.identity, .symbol "." :: .quoteStart :: rest)
    | .symbol "." :: rest => some (.identity, rest)
    | .symbol "-" :: rest => do
      let (body, rest) ← readPostfix fuel rest
      return (.negate body, rest)
    | .symbol "(" :: rest => do
      let (body, rest) ← readFilter fuel true 0 rest
      let rest ← expectSymbol ")" rest
      return (body, rest)
    | .symbol "[" :: .symbol "]" :: rest => some (.literal (.array []), rest)
    | .symbol "[" :: rest => do
      let (body, rest) ← readFilter fuel true 0 rest
      let rest ← expectSymbol "]" rest
      return (.collect body, rest)
    | .symbol "\x7b" :: .symbol "\x7d" :: rest => some (.literal (.object []), rest)
    | .symbol "\x7b" :: rest => do
      let (fields, rest) ← readFields fuel [] rest
      return (joinFields fields, rest)
    | .word "if" :: rest => readConditional fuel rest
    | .word "try" :: rest => do
      let (body, rest) ← readPostfix fuel rest
      match rest with
      | .word "catch" :: rest =>
        let (handler, rest) ← readPostfix fuel rest
        return (.attempt body handler, rest)
      | rest => return (.attempt body .empty, rest)
    | .word name :: rest =>
      if name ∈ reservedWords then none
      else
        match rest with
        | .symbol "(" :: rest => do
          let (arguments, rest) ← readArguments fuel [] rest
          return (.call name arguments, rest)
        | rest => some (.call name [], rest)
    | _ => none

end

/-- The filter that a text holds, all of it. -/
def parse (text : String) : Option Filter := do
  let tokens ← Token.scan text.toList
  let (filter, rest) ← readFilter (8 * tokens.length + 8) true 0 tokens
  if rest.isEmpty then some filter else none

end NodeGen.Query
