import NodeGen.Json.Scan

/-! Reading of JSON texts into values. -/

set_option autoImplicit false

namespace NodeGen.Json

/-- A value after space. It may open lists and objects while fewer than `depth` are open. -/
def readValue : Nat → List Char → Except Fault (Value × List Char)
  | 0, text => .error (.next .tooDeep text)
  | depth + 1, text =>
    match skipSpace text with
    | '[' :: rest =>
      if depth = 0 then .error (.next .tooDeep ('[' :: rest))
      else
        (readItems (readValue depth) (rest.length + 1) [] rest).map fun (items, rest) =>
          (.array items, rest)
    | '\x7b' :: rest =>
      if depth = 0 then .error (.next .tooDeep ('\x7b' :: rest))
      else
        (readEntries (readValue depth) (rest.length + 1) [] rest).map fun (fields, rest) =>
          (.ofFields fields, rest)
    | other => do
      let (kind, rest) ← readKind other
      match kind with
      | .null => .ok (.null, rest)
      | .boolean value => .ok (.bool value, rest)
      | .number value => .ok (.number value, rest)
      | .string value => .ok (.string value, rest)
      | .sequence => .ok (.array [], rest)
      | .map => .ok (.object [], rest)

/-- Lists and objects may be nested this deep, less one. -/
def depthLimit : Nat := 128

/-- A text that holds one value and nothing after it. -/
def parseWithin (limit : Nat) (text : List Char) : Except Fault Value := do
  let (value, rest) ← readValue limit text
  match skipSpace rest with
  | [] => .ok value
  | other => .error (.next .trailingCharacters other)

def parse (text : String) : Except Report Value :=
  (parseWithin depthLimit text.toList).mapError fun fault =>
    ⟨none, fault.problem, some (fault.position text.toList)⟩

end NodeGen.Json
