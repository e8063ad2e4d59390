import NodeGen.Query.Value

/-! Filters: what a query is made of. A filter turns one value into any number of values. -/

set_option autoImplicit false

namespace NodeGen.Query

inductive MathOp where
  | add
  | sub
  | mul
  deriving DecidableEq, Repr

inductive CompareOp where
  | eq
  | ne
  | lt
  | le
  | gt
  | ge
  deriving DecidableEq, Repr

/-- Functions of the input alone. -/
inductive Builtin where
  | keys
  | length
  | type
  | toEntries
  | fromEntries
  | not
  | text
  deriving DecidableEq, Repr

mutual

inductive Filter where
  | identity
  /-- The input and all values inside it. -/
  | descend
  | literal (value : Value)
  | variable (name : String)
  /-- Gives no value. -/
  | empty
  /-- Fails with the input. -/
  | error
  | builtin (function : Builtin)
  | has (key : Filter)
  | path (base : Filter) (steps : Steps)
  | collect (body : Filter)
  /-- An object with one field. -/
  | field (key value : Filter)
  | negate (body : Filter)
  | pipe (first second : Filter)
  | comma (first second : Filter)
  | bind (value : Filter) (name : String) (body : Filter)
  | math (op : MathOp) (left right : Filter)
  | compare (op : CompareOp) (left right : Filter)
  | both (left right : Filter)
  | either (left right : Filter)
  /-- The values of the first filter that are neither null nor false, or else the second filter. -/
  | alternative (first second : Filter)
  | assign (target value : Filter)
  | update (target value : Filter)
  | updateMath (op : MathOp) (target value : Filter)
  | conditional (condition yes no : Filter)
  | attempt (body handler : Filter)
  /-- A function that does not exist. -/
  | undefined (name : String)

/-- Steps into a value. An optional step drops its own failures. -/
inductive Steps where
  | done
  | index (key : Filter) (optional : Bool) (rest : Steps)
  | iterate (optional : Bool) (rest : Steps)
  | slice (start stop : Bound) (optional : Bool) (rest : Steps)

inductive Bound where
  | none
  | at (position : Filter)

end

namespace Filter

/-- A field of the input. -/
def key (name : String) : Filter :=
  .path .identity (.index (.literal (.string name)) false .done)

def iterate : Filter :=
  .path .identity (.iterate false .done)

def select (condition : Filter) : Filter :=
  .conditional condition .identity .empty

def map (body : Filter) : Filter :=
  .collect (.pipe iterate body)

def withEntries (body : Filter) : Filter :=
  .pipe (.builtin .toEntries) (.pipe (map body) (.builtin .fromEntries))

def delete (target : Filter) : Filter :=
  .update target .empty

/-- A call of a function that does not exist, which comes behind its arguments. -/
def unresolved (name : String) (arguments : List Filter) : Filter :=
  arguments.foldr .pipe (.undefined name)

/-- Functions by name and arguments. -/
def call (name : String) (arguments : List Filter) : Filter :=
  match name, arguments with
  | "null", [] => .literal .null
  | "true", [] => .literal (.bool true)
  | "false", [] => .literal (.bool false)
  | "empty", [] => .empty
  | "error", [] => .error
  | "error", [value] => .pipe value .error
  | "not", [] => .builtin .not
  | "keys", [] => .builtin .keys
  | "length", [] => .builtin .length
  | "type", [] => .builtin .type
  | "tostring", [] => .builtin .text
  | "to_entries", [] => .builtin .toEntries
  | "from_entries", [] => .builtin .fromEntries
  | "recurse", [] => .descend
  | "has", [key] => .has key
  | "select", [condition] => select condition
  | "map", [body] => map body
  | "map_values", [body] => .update iterate body
  | "with_entries", [body] => withEntries body
  | "del", [target] => delete target
  | _, _ => unresolved name arguments

end Filter

mutual

/-- The first name that is not defined where the variables of `scope` are: from left to right, but
arguments before their function and the last branch of a conditional before the others. -/
def Filter.undefined? (scope : List String) : Filter → Option String
  | .identity | .descend | .literal _ | .empty | .error | .builtin _ => none
  | .variable name => if name ∈ scope then none else some ("$" ++ name)
  | .undefined name => some name
  | .has body | .collect body | .negate body => body.undefined? scope
  | .path base steps => base.undefined? scope <|> steps.undefined? scope
  | .field left right | .pipe left right | .comma left right | .math _ left right
  | .compare _ left right | .both left right | .either left right | .alternative left right
  | .assign left right | .update left right | .updateMath _ left right
  | .attempt left right => left.undefined? scope <|> right.undefined? scope
  | .bind value name body => value.undefined? scope <|> body.undefined? (name :: scope)
  | .conditional condition yes no =>
    no.undefined? scope <|> condition.undefined? scope <|> yes.undefined? scope

def Steps.undefined? (scope : List String) : Steps → Option String
  | .done => none
  | .index key _ rest => key.undefined? scope <|> rest.undefined? scope
  | .iterate _ rest => rest.undefined? scope
  | .slice start stop _ rest =>
    start.undefined? scope <|> stop.undefined? scope <|> rest.undefined? scope

def Bound.undefined? (scope : List String) : Bound → Option String
  | .none => Option.none
  | .at position => position.undefined? scope

end

end NodeGen.Query
