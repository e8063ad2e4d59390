import NodeGen.Document.OfValue
import NodeGen.FileTree.Matching
import NodeGen.Json.Pointer
import NodeGen.Query

/-! Documents loaded from files. A pointer or a query selects parts of a file; then the file is read
as a JSON value first, where of equal keys the last value counts. The evaluator of the queries is a
parameter. -/

set_option autoImplicit false

namespace NodeGen

inductive PatternFailure where
  | malformed (error : PatternError)
  | noMatch
  deriving DecidableEq, Repr

def PatternFailure.message : PatternFailure → String
  | .malformed error => error.message
  | .noMatch => "glob pattern matched no files"

inductive LoadError where
  | read (path : String) (cause : FileError)
  | parse (path : String) (report : Json.Report)
  | pointer (pointer path : String)
  | query (filter path : String) (cause : Query.Failure)
  | pattern (pattern : String) (cause : PatternFailure)
  deriving DecidableEq, Repr

def LoadError.message : LoadError → String
  | .read path cause => "failed to read schema document " ++ path ++ ": " ++ cause.message
  | .parse path report => "invalid schema document " ++ path ++ ": " ++ report.message
  | .pointer text path => "JSON pointer `" ++ text ++ "` selects nothing in " ++ path
  | .query filter path cause =>
      "jq filter failed on " ++ path ++ ": " ++ cause.message filter
  | .pattern text cause => "bad input pattern `" ++ text ++ "`: " ++ cause.message

/-- What is taken from a file: the pointer is followed first, then the query runs. -/
structure Selection where
  pointer : Option String
  query : Option String
  deriving DecidableEq, Repr

namespace Selection

def isWhole (selection : Selection) : Bool :=
  selection.pointer.isNone && selection.query.isNone

def pointed (selection : Selection) (path : String) (value : Json.Value) :
    Except LoadError Json.Value :=
  match selection.pointer with
  | none => .ok value
  | some pointer =>
    match Json.Pointer.select pointer value with
    | some inner => .ok inner
    | none => .error (.pointer pointer path)

def queried (evaluator : Query.Evaluator) (selection : Selection) (path : String)
    (value : Json.Value) : Except LoadError (List Json.Value) :=
  match selection.query with
  | none => .ok [value]
  | some filter => (Query.run evaluator filter value).mapError (.query filter path)

end Selection

namespace Document

/-- The documents of several values, merged in order. -/
def mergeValues (path : String) (document : Document) :
    List Json.Value → Except LoadError Document
  | [] => .ok document
  | value :: rest =>
    match ofValue value with
    | .ok next => mergeValues path (document.merge next) rest
    | .error misfit => .error (.parse path misfit.report)

/-- The document in the text of a file. -/
def ofText (evaluator : Query.Evaluator) (path : String) (selection : Selection) (text : String) :
    Except LoadError Document :=
  if selection.isWhole then (parse text).mapError (.parse path)
  else do
    let value ← (Json.parse text).mapError (.parse path)
    let value ← selection.pointed path value
    let values ← selection.queried evaluator path value
    mergeValues path .empty values

def load (evaluator : Query.Evaluator) (tree : FileTree) (selection : Selection) (path : String) :
    Except LoadError Document := do
  let text ← (tree.read path).mapError (.read path)
  ofText evaluator path selection text

/-- Files that patterns stand for; a text that is no pattern is taken as a path, unseen. -/
def resolvePatterns (tree : FileTree) : List String → Except LoadError (List String)
  | [] => .ok []
  | pattern :: rest => do
    let paths ←
      if isPatternText pattern then
        match tree.matching pattern with
        | .error error => .error (.pattern pattern (.malformed error))
        | .ok [] => .error (.pattern pattern .noMatch)
        | .ok paths => .ok paths
      else .ok [pattern]
    return paths ++ (← resolvePatterns tree rest)

/-- The documents of several files, merged in order. -/
def loadAll (evaluator : Query.Evaluator) (tree : FileTree) (selection : Selection)
    (document : Document) : List String → Except LoadError Document
  | [] => .ok document
  | path :: rest => do
    let next ← load evaluator tree selection path
    loadAll evaluator tree selection (document.merge next) rest

end Document

end NodeGen
