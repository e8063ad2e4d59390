import NodeGen.Json.Reader

/-! Queries over JSON values. What evaluates the filters is a parameter: whatever a filter is and
does, its results come one after the other as texts, and each text is read as JSON. -/

set_option autoImplicit false

namespace NodeGen.Query

/-- Why a filter does not run at all, with the details that the evaluator gives. -/
inductive Refusal where
  | unreadable (details : List String)
  /-- Names that stand for nothing, each with its details. -/
  | undefined (names : List (String × String))
  deriving DecidableEq, Repr

/-- What a filter gives for a value, result by result: the text of a value, or the details of a
failure. Nothing after the first failure is looked at. -/
abbrev Evaluator : Type :=
  String → Json.Value → Except Refusal (List (Except String String))

inductive Failure where
  | refused (refusal : Refusal)
  | failed (details : String)
  /-- The text of a result is no JSON. -/
  | notJson (text : String) (report : Json.Report)
  deriving DecidableEq, Repr

def Refusal.problems : Refusal → List String
  | .unreadable details => details.map ("parse error: " ++ ·)
  | .undefined names => names.map fun (name, details) => "undefined `" ++ name ++ "`: " ++ details

def Failure.problems : Failure → List String
  | .refused refusal => refusal.problems
  | .failed details => ["runtime error: " ++ details]
  | .notJson text report => ["output is not JSON (" ++ report.message ++ "): " ++ text]

/-- All problems, and the filter that has them. -/
def Failure.message (filter : String) (failure : Failure) : String :=
  String.intercalate "; " failure.problems ++ " in `" ++ filter ++ "`"

/-- Results as JSON, or the first failure among them. -/
def results : List (Except String String) → Except Failure (List Json.Value)
  | [] => .ok []
  | .error details :: _ => .error (.failed details)
  | .ok text :: rest =>
    match Json.parse text with
    | .error report => .error (.notJson text report)
    | .ok value => (results rest).map (value :: ·)

/-- All results of a filter for a value. -/
def run (evaluator : Evaluator) (filter : String) (input : Json.Value) :
    Except Failure (List Json.Value) :=
  match evaluator filter input with
  | .error refusal => .error (.refused refusal)
  | .ok outcomes => results outcomes

end NodeGen.Query
