import NodeGen.Query
import NodeGen.Query.Eval
import NodeGen.Query.Parser

/-! An evaluator of the filters that are most in use: paths and slices, operators, conditions,
assignments and some functions. It knows a part of the filter language only, and refuses a filter
that needs more; what is proved of queries is proved for every evaluator. -/

set_option autoImplicit false

namespace NodeGen.Query

/-- A failure is described by the value that it carries. -/
def outcomeText : Outcome → Except String String
  | .ok value => .ok (shown value)
  | .error failure => .error (shown failure)

/-- The text and the names of a filter are checked before it runs. -/
def common : Evaluator := fun filter input =>
  match parse filter with
  | none => .error (.unreadable ["not a filter"])
  | some filter =>
    match filter.undefined? [] with
    | some name => .error (.undefined [(name, "not a name")])
    | none => .ok ((eval [] filter (ofJson input)).map outcomeText)

end NodeGen.Query
