import NodeGen.Query.Filter

/-! What filters do. A filter gives its results in order, and a failure is a result too: whoever
takes the results decides whether it ends there. Where two filters are combined, the results of the
first are gone through in turn, each with all results of the second. -/

set_option autoImplicit false

namespace NodeGen.Query

/-- A value, or a failure with the value that describes it. -/
abbrev Outcome : Type :=
  Except Value Value

abbrev Outcomes : Type :=
  List Outcome

def fail (message : String) : Value :=
  .string message

def shown (value : Value) : String :=
  String.ofList (compact value)

/-- Goes on with each value; failures stay. -/
def andThen (outcomes : Outcomes) (next : Value → Outcomes) : Outcomes :=
  outcomes.flatMap fun outcome =>
    match outcome with
    | .ok value => next value
    | .error failure => [.error failure]

/-- The values before the first failure, and then what `handler` makes of that failure. -/
def orElse : Outcomes → (Value → Outcomes) → Outcomes
  | [], _ => []
  | .ok value :: rest, handler => .ok value :: orElse rest handler
  | .error failure :: _, handler => handler failure

/-- All values, or the first failure. -/
def allValues : Outcomes → Except Value (List Value)
  | [] => .ok []
  | .error failure :: _ => .error failure
  | .ok value :: rest => (allValues rest).map (value :: ·)

def cannotUse (value : Value) (wanted : String) : Value :=
  fail ("cannot use " ++ shown value ++ " as " ++ wanted)

def notIterable (value : Value) : Value :=
  cannotUse value "iterable (array or object)"

def cannotIndex (value key : Value) : Value :=
  fail ("cannot index " ++ shown value ++ " with " ++ shown key)

/-- A position in a list of a length; a negative one counts from the end. -/
def position? (index : Int) (length : Nat) : Option Nat :=
  let place := if index < 0 then index + length else index
  if 0 ≤ place && place < length then some place.toNat else none

/-- A bound of a slice, kept within a length. -/
def boundPosition (length default : Nat) : Option Int → Nat
  | none => default
  | some index =>
    let place := if index < 0 then index + length else index
    min place.toNat length

def asInt : Value → Except Value Int
  | .number (.int value) => .ok value
  | other => .error (cannotUse other "integer")

def asInt? : Option Value → Except Value (Option Int)
  | none => .ok none
  | some value => (asInt value).map some

/-- The part of a list between two bounds. -/
def sliceRange (length : Nat) (start stop : Option Int) : Nat × Nat :=
  let first := boundPosition length 0 start
  let last := boundPosition length length stop
  (first, last - first)

/-- A step into a value whose keys and bounds are known. -/
inductive Move where
  | index (key : Value)
  | iterate
  | slice (start stop : Option Value)

def readMove (move : Move) (value : Value) : Outcomes :=
  match move with
  | .index key =>
    match value, key with
    | .array items, .number (.int index) =>
      [.ok (((position? index items.length).bind (items[·]?)).getD .null)]
    | .object fields, .string name => [.ok ((Json.Tree.field? fields name).getD .null)]
    | .array _, _ | .object _, _ => [.error (cannotIndex value key)]
    | _, _ => [.error (notIterable value)]
  | .iterate =>
    match value with
    | .array items => items.map .ok
    | .object fields => fields.map fun field => .ok field.2
    | other => [.error (notIterable other)]
  | .slice start stop =>
    match value, asInt? start, asInt? stop with
    | .array items, .ok start, .ok stop =>
      let (skip, take) := sliceRange items.length start stop
      [.ok (.array ((items.drop skip).take take))]
    | .string text, .ok start, .ok stop =>
      let chars := text.toList
      let (skip, take) := sliceRange chars.length start stop
      [.ok (.string (String.ofList ((chars.drop skip).take take)))]
    | .array _, .error failure, _ | .string _, .error failure, _ => [.error failure]
    | .array _, _, .error failure | .string _, _, .error failure => [.error failure]
    | other, _, _ => [.error (cannotUse other "rangeable (array or string)")]

/-- The steps of a path, each with whether its failures are dropped. -/
abbrev Route : Type :=
  List (Move × Bool)

def follow : Route → Value → Outcomes
  | [], value => [.ok value]
  | (move, optional) :: rest, value =>
    let outcomes := readMove move value
    let kept := if optional then outcomes.filter (·.isOk) else outcomes
    andThen kept (follow rest)

/-- Takes a key out; the last field moves into its place. -/
def removeField (name : String) (fields : List (String × Value)) : List (String × Value) :=
  match fields.getLast? with
  | none => []
  | some last =>
    if last.1 = name then fields.dropLast
    else fields.dropLast.map fun field => if field.1 = name then last else field

/-- What becomes of a value when `change` is applied to its parts that a step leads to. Only the
first result counts for a single part, and none removes it; a list takes up all results for each of
its items. -/
def changeMove (move : Move) (optional : Bool) (change : Value → Outcomes) (value : Value) :
    Outcome :=
  let refuse (failure : Value) : Outcome := if optional then .ok value else .error failure
  match move with
  | .iterate =>
    match value with
    | .array items => (allValues (items.flatMap change)).map .array
    | .object fields => do
      let kept ← fields.filterMapM fun (name, inner) =>
        match (change inner).head? with
        | none => .ok none
        | some outcome => outcome.map fun changed => some (name, changed)
      return .object kept
    | other => refuse (notIterable other)
  | .index key =>
    match value, key with
    | .object fields, .string name =>
      match Json.Tree.field? fields name with
      | some inner =>
        match (change inner).head? with
        | none => .ok (.object (removeField name fields))
        | some outcome =>
          outcome.map fun changed => .object (Json.Tree.insertField name changed fields)
      | none =>
        match (change .null).head? with
        | none => .ok value
        | some outcome =>
          outcome.map fun changed => .object (Json.Tree.insertField name changed fields)
    | .object _, _ => refuse (cannotIndex value key)
    | .array items, key =>
      match asInt key with
      | .error failure => refuse failure
      | .ok index =>
        match position? index items.length with
        | none => refuse (fail ("index " ++ shown key ++ " is out of bounds"))
        | some place =>
          match (change ((items[place]?).getD .null)).head? with
          | none => .ok (.array (items.eraseIdx place))
          | some outcome => outcome.map fun changed => .array (items.set place changed)
    | _, _ => refuse (notIterable value)
  | .slice start stop =>
    match value, asInt? start, asInt? stop with
    | .array items, .ok start, .ok stop =>
      let (skip, take) := sliceRange items.length start stop
      let before := items.take skip
      let after := items.drop (skip + take)
      match (change (.array ((items.drop skip).take take))).head? with
      | none => .ok (.array (before ++ after))
      | some (.ok (.array changed)) => .ok (.array (before ++ changed ++ after))
      | some (.ok other) => .error (cannotUse other "array")
      | some (.error failure) => .error failure
    | .array _, .error failure, _ | .array _, _, .error failure => refuse failure
    | other, _, _ => refuse (cannotUse other "array")

def changeRoute (change : Value → Outcomes) : Route → Value → Outcomes
  | [], value => change value
  | [(move, optional)], value => [changeMove move optional change value]
  | (move, optional) :: rest, value => [changeMove move optional (changeRoute change rest) value]

/-- Changes along several routes, one after the other. -/
def changeRoutes (change : Value → Outcomes) :
    List (Except Value Route) → Value → Outcomes
  | [], value => [.ok value]
  | .error failure :: _, _ => [.error failure]
  | .ok route :: rest, value =>
    andThen (changeRoute change route value) (changeRoutes change rest)

/-- Changes a value and then what the result holds, down to a depth. -/
def changeAll (change : Value → Outcomes) : Nat → Value → Outcomes
  | 0, value => change value
  | depth + 1, value =>
    andThen (change value) fun changed =>
      [changeMove .iterate true (changeAll change depth) changed]

def cannotCalculate (left : Value) (op : String) (right : Value) : Value :=
  fail ("cannot calculate " ++ shown left ++ " " ++ op ++ " " ++ shown right)

def repeatText (text : String) (count : Int) : Value :=
  if 0 < count then .string (String.join (List.replicate count.toNat text)) else .null

def calculate (op : MathOp) (left right : Value) : Outcome :=
  match op, left, right with
  | .add, .null, other => .ok other
  | .add, other, .null => .ok other
  | .add, .number left, .number right => .ok (.number (left.add right))
  | .add, .string left, .string right => .ok (.string (left ++ right))
  | .add, .array left, .array right => .ok (.array (left ++ right))
  | .add, .object left, .object right =>
    .ok (.object (right.foldl
      (fun known field => Json.Tree.insertField field.1 field.2 known) left))
  | .add, _, _ => .error (cannotCalculate left "+" right)
  | .sub, .number left, .number right => .ok (.number (left.sub right))
  | .sub, .array left, .array right =>
    .ok (.array (left.filter fun item => !right.any fun other => compare item other == .eq))
  | .sub, _, _ => .error (cannotCalculate left "-" right)
  | .mul, .number left, .number right => .ok (.number (left.mul right))
  | .mul, .string text, .number (.int count) => .ok (repeatText text count)
  | .mul, .number (.int count), .string text => .ok (repeatText text count)
  | .mul, .object left, .object right => .ok (.object (mergeFields left right))
  | .mul, _, _ => .error (cannotCalculate left "*" right)

def CompareOp.holds (op : CompareOp) (left right : Value) : Bool :=
  let order := Query.compare left right
  match op with
  | .eq => order == .eq
  | .ne => order != .eq
  | .lt => order == .lt
  | .le => order != .gt
  | .gt => order == .gt
  | .ge => order != .lt

def entry (key value : Value) : Value :=
  .object [("key", key), ("value", value)]

/-- The field that an entry with `key` and `value` stands for. -/
def fieldOfEntry (item : Value) : Except Value (String × Value) :=
  match item with
  | .object fields =>
    match Json.Tree.field? fields "key" with
    | some (.string key) => .ok (key, (Json.Tree.field? fields "value").getD .null)
    | other => .error (cannotUse (other.getD .null) "string")
  | other => .error (notIterable other)

def applyBuiltin (function : Builtin) (input : Value) : Outcome :=
  match function, input with
  | .keys, .array items =>
    .ok (.array ((List.range items.length).map fun (index : Nat) => .number (.int index)))
  | .keys, .object fields =>
    .ok (.array (((fields.map (·.1)).mergeSort fun left right => left ≤ right).map .string))
  | .keys, other => .error (notIterable other)
  | .length, .null => .ok (.number (.int 0))
  | .length, .bool _ => .error (fail (shown input ++ " has no length"))
  | .length, .number number => .ok (.number number.abs)
  | .length, .string text => .ok (.number (.int text.length))
  | .length, .array items => .ok (.number (.int items.length))
  | .length, .object fields => .ok (.number (.int fields.length))
  | .type, value => .ok (.string (typeName value))
  | .not, value => .ok (.bool !(isTruthy value))
  | .text, value => .ok (.string (plainText value))
  | .toEntries, .object fields =>
    .ok (.array (fields.map fun field => entry (.string field.1) field.2))
  | .toEntries, .array items =>
    .ok (.array (items.mapIdx fun index item => entry (.number (.int index)) item))
  | .toEntries, other => .error (notIterable other)
  | .fromEntries, .array items => (items.mapM fieldOfEntry).map .ofFields
  | .fromEntries, .object fields => ((fields.map (·.2)).mapM fieldOfEntry).map .ofFields
  | .fromEntries, other => .error (notIterable other)

def hasKey (key input : Value) : Outcome :=
  match input, key with
  | .object fields, .string name => .ok (.bool (Json.Tree.field? fields name).isSome)
  | .array items, .number (.int index) =>
    if index < 0 then .error (cannotIndex input key) else .ok (.bool (index < items.length))
  | _, _ => .error (cannotIndex input key)

def negateValue : Value → Outcome
  | .number number => .ok (.number number.negate)
  | other => .error (cannotUse other "number")

abbrev Env : Type :=
  List (String × Value)

/-- How deep a change of all values inside a value goes. -/
def changeDepth : Nat := 512

def invalidPath : Value :=
  fail "invalid path expression"

/-- One change after the other, for each value that decides on one. -/
def changeForEach (outcomes : Outcomes) (change : Value → Value → Outcomes) (input : Value) :
    Outcomes :=
  outcomes.foldl
    (fun results outcome =>
      match outcome with
      | .ok value => andThen results (change value)
      | .error failure => [.error failure])
    [.ok input]

mutual

def eval (env : Env) : Filter → Value → Outcomes
  | .identity, input => [.ok input]
  | .descend, input => (descendants input).map .ok
  | .literal value, _ => [.ok value]
  | .variable name, _ =>
    match env.find? (·.1 == name) with
    | some (_, value) => [.ok value]
    | none => []
  | .empty, _ => []
  | .error, input => [.error input]
  | .undefined _, _ => []
  | .builtin function, input => [applyBuiltin function input]
  | .has key, input => andThen (eval env key input) fun key => [hasKey key input]
  | .path base steps, input =>
    andThen (eval env base input) fun value =>
      (routes env steps input).flatMap fun route =>
        match route with
        | .ok route => follow route value
        | .error failure => [.error failure]
  | .collect body, input => [(allValues (eval env body input)).map .array]
  | .field key value, input =>
    andThen (eval env key input) fun key =>
      andThen (eval env value input) fun value =>
        match key with
        | .string name => [.ok (.object [(name, value)])]
        | other => [.error (cannotUse other "string")]
  | .negate body, input => andThen (eval env body input) fun value => [negateValue value]
  | .pipe first second, input => andThen (eval env first input) (eval env second)
  | .comma first second, input => eval env first input ++ eval env second input
  | .bind value name body, input =>
    andThen (eval env value input) fun value => eval ((name, value) :: env) body input
  | .math op left right, input =>
    andThen (eval env left input) fun left =>
      andThen (eval env right input) fun right => [calculate op left right]
  | .compare op left right, input =>
    andThen (eval env left input) fun left =>
      andThen (eval env right input) fun right => [.ok (.bool (op.holds left right))]
  | .both left right, input =>
    andThen (eval env left input) fun left =>
      if isTruthy left then
        andThen (eval env right input) fun right => [.ok (.bool (isTruthy right))]
      else [.ok (.bool false)]
  | .either left right, input =>
    andThen (eval env left input) fun left =>
      if isTruthy left then [.ok (.bool true)]
      else andThen (eval env right input) fun right => [.ok (.bool (isTruthy right))]
  | .alternative first second, input =>
    match (eval env first input).filter (fun outcome =>
        match outcome with
        | .ok value => isTruthy value
        | .error _ => true) with
    | [] => eval env second input
    | outcomes => outcomes
  | .assign target value, input =>
    andThen (eval env value input) fun value => change env target (fun _ => [.ok value]) input
  | .update target value, input => change env target (eval env value) input
  | .updateMath op target value, input =>
    andThen (eval env value input) fun right =>
      change env target (fun left => [calculate op left right]) input
  | .conditional condition yes no, input =>
    andThen (eval env condition input) fun value =>
      if isTruthy value then eval env yes input else eval env no input
  | .attempt body handler, input => orElse (eval env body input) (eval env handler)

/-- The routes that steps stand for, with keys and bounds taken from the input. -/
def routes (env : Env) : Steps → Value → List (Except Value Route)
  | .done, _ => [.ok []]
  | .index key optional rest, input =>
    (eval env key input).flatMap fun outcome =>
      match outcome with
      | .ok key => (routes env rest input).map (·.map ((.index key, optional) :: ·))
      | .error failure => [.error failure]
  | .iterate optional rest, input =>
    (routes env rest input).map (·.map ((.iterate, optional) :: ·))
  | .slice start stop optional rest, input =>
    (bounds env start input).flatMap fun start =>
      (bounds env stop input).flatMap fun stop =>
        match start, stop with
        | .ok start, .ok stop =>
          (routes env rest input).map (·.map ((.slice start stop, optional) :: ·))
        | .error failure, _ | _, .error failure => [.error failure]

def bounds (env : Env) : Bound → Value → List (Except Value (Option Value))
  | .none, _ => [.ok none]
  | .at position, input => (eval env position input).map (·.map some)

/-- The input with `update` applied to the parts that a filter selects. -/
def change (env : Env) : Filter → (Value → Outcomes) → Value → Outcomes
  | .identity, update, input => update input
  | .descend, update, input => changeAll update changeDepth input
  | .empty, _, input => [.ok input]
  | .error, _, input => [.error input]
  | .path base steps, update, input =>
    let known := routes env steps input
    change env base (changeRoutes update known) input
  | .pipe first second, update, input =>
    change env first (fun value => change env second update value) input
  | .comma first second, update, input =>
    andThen (change env first update input) (change env second update)
  | .bind value name body, update, input =>
    changeForEach (eval env value input)
      (fun value => change ((name, value) :: env) body update) input
  | .conditional condition yes no, update, input =>
    changeForEach (eval env condition input)
      (fun value => if isTruthy value then change env yes update else change env no update) input
  | .alternative first second, update, input =>
    if (eval env first input).any (fun outcome =>
        match outcome with
        | .ok value => isTruthy value
        | .error _ => true) then change env first update input
    else change env second update input
  | _, _, _ => [.error invalidPath]

end

end NodeGen.Query
