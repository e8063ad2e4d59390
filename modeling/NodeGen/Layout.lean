/-! Laid-out text: lines at a depth, put together from nested steps. A line without text stays bare
at every depth. -/

set_option autoImplicit false

namespace NodeGen

inductive Step where
  | line (text : String)
  | blank
  | indented (body : List Step)
  /-- A body one level deeper between two lines. -/
  | block (opening closing : String) (body : List Step)

namespace Layout

/-- A line and its depth. -/
structure Line where
  depth : Nat
  text : String
  deriving DecidableEq, Repr

mutual

def stepLines (depth : Nat) : Step → List Line
  | .line text => [⟨depth, text⟩]
  | .blank => [⟨depth, ""⟩]
  | .indented body => lines (depth + 1) body
  | .block opening closing body =>
    ⟨depth, opening⟩ :: lines (depth + 1) body ++ [⟨depth, closing⟩]

def lines (depth : Nat) : List Step → List Line
  | [] => []
  | step :: rest => stepLines depth step ++ lines depth rest

end

theorem lines_append (depth : Nat) (first rest : List Step) :
    lines depth (first ++ rest) = lines depth first ++ lines depth rest := by
  induction first with
  | nil => simp [lines]
  | cons step first ih => simp [lines, ih]

def Line.render (unit : String) (line : Line) : String :=
  if line.text.isEmpty then "\n"
  else String.join (List.replicate line.depth unit) ++ line.text ++ "\n"

def renderLines (unit : String) (lines : List Line) : String :=
  String.join (lines.map (·.render unit))

theorem renderLines_append (unit : String) (first rest : List Line) :
    renderLines unit (first ++ rest) = renderLines unit first ++ renderLines unit rest := by
  simp [renderLines]

/-- The text of steps that start at the left margin, `unit` standing before a line once for each
level. -/
def render (unit : String) (steps : List Step) : String :=
  renderLines unit (lines 0 steps)

mutual

/-- The text so far after each step, in the order in which steps end, for steps that start when
`before` is written. -/
def traceStep (unit : String) (depth : Nat) (before : String) : Step → List String
  | .line text => [before ++ renderLines unit [⟨depth, text⟩]]
  | .blank => [before ++ renderLines unit [⟨depth, ""⟩]]
  | .indented body =>
    trace unit (depth + 1) before body ++
      [before ++ renderLines unit (lines (depth + 1) body)]
  | .block opening closing body =>
    let opened := before ++ renderLines unit [⟨depth, opening⟩]
    trace unit (depth + 1) opened body ++
      [opened ++ renderLines unit (lines (depth + 1) body) ++
        renderLines unit [⟨depth, closing⟩]]

def trace (unit : String) (depth : Nat) (before : String) : List Step → List String
  | [] => []
  | step :: rest =>
    traceStep unit depth before step ++
      trace unit depth (before ++ renderLines unit (stepLines depth step)) rest

end

end Layout

end NodeGen
