import NodeGen.Layout.Emitter
import NodeGen.Proofs.Layout.Outline

/-! What emission adds to a text. A run of steps ends at the depth where it began and only adds to
the text, and what it adds one level deeper is the same text with the unit of indentation before
every line that is not empty. -/

set_option autoImplicit false

namespace NodeGen

namespace Text

/-- What stands before, between and behind the line breaks of a text. -/
def segments (text : String) : List String :=
  (text.toList.splitOn '\n').map String.ofList

theorem segments_ne_nil (text : String) : segments text ≠ [] := by
  simp [segments]

theorem segments_of_unbroken {text : String} (unbroken : '\n' ∉ text.toList) :
    segments text = [text] := by
  rw [segments, List.splitOn_eq_singleton unbroken]
  simp

theorem segments_append (first rest : String) :
    segments (first ++ "\n" ++ rest) = segments first ++ segments rest := by
  have shape : (first ++ "\n" ++ rest).toList = first.toList ++ '\n' :: rest.toList := by simp
  rw [segments, shape, List.splitOn_append_cons_self, List.map_append]
  rfl

theorem intercalate_segments (text : String) : String.intercalate "\n" (segments text) = text := by
  apply String.toList_injective
  simp [segments, Function.comp_def]

def indentLine (unit line : String) : String :=
  if line.isEmpty then "" else unit ++ line

/-- The text with `unit` before every line that is not empty. -/
def indent (unit text : String) : String :=
  String.intercalate "\n" ((segments text).map (indentLine unit))

theorem indent_empty (unit : String) : indent unit "" = "" := by
  simp [indent, segments_of_unbroken, indentLine]

theorem indent_line {line : String} (unbroken : '\n' ∉ line.toList) (unit rest : String) :
    indent unit (line ++ "\n" ++ rest) = indentLine unit line ++ "\n" ++ indent unit rest := by
  obtain ⟨next, others, shape⟩ := List.exists_cons_of_ne_nil (segments_ne_nil rest)
  rw [indent, indent, segments_append, segments_of_unbroken unbroken, shape]
  simp [String.intercalate_cons_cons]

end Text

namespace Layout

/-- What steps add to a text at a depth. -/
def renderAt (unit : String) (depth : Nat) (steps : List Step) : String :=
  renderLines unit (lines depth steps)

theorem renderAt_cons (unit : String) (depth : Nat) (step : Step) (rest : List Step) :
    renderAt unit depth (step :: rest) =
      renderLines unit (stepLines depth step) ++ renderAt unit depth rest :=
  renderLines_append unit (stepLines depth step) (lines depth rest)

theorem renderAt_append (unit : String) (depth : Nat) (first rest : List Step) :
    renderAt unit depth (first ++ rest) =
      renderAt unit depth first ++ renderAt unit depth rest := by
  rw [renderAt, lines_append, renderLines_append]
  rfl

theorem renderAt_flatMap {Item : Type} (unit : String) (depth : Nat) (steps : Item → List Step)
    (items : List Item) :
    renderAt unit depth (items.flatMap steps) =
      String.join (items.map fun item => renderAt unit depth (steps item)) := by
  induction items with
  | nil => rfl
  | cons item rest ih => simp [renderAt_append, ih]

theorem renderLines_block (unit : String) (depth : Nat) (opening closing : String)
    (body : List Step) :
    renderLines unit (stepLines depth (.block opening closing body)) =
      renderLines unit [⟨depth, opening⟩] ++
        (renderAt unit (depth + 1) body ++ renderLines unit [⟨depth, closing⟩]) := by
  rw [renderAt, ← renderLines_append, ← renderLines_append]
  rfl

mutual

/-- No text of the step breaks a line. -/
def StepUnbroken : Step → Prop
  | .line text => '\n' ∉ text.toList
  | .blank => True
  | .indented body => StepsUnbroken body
  | .block opening closing body =>
    '\n' ∉ opening.toList ∧ '\n' ∉ closing.toList ∧ StepsUnbroken body

def StepsUnbroken : List Step → Prop
  | [] => True
  | step :: rest => StepUnbroken step ∧ StepsUnbroken rest

end

theorem stepsUnbroken_iff {steps : List Step} :
    StepsUnbroken steps ↔ ∀ step ∈ steps, StepUnbroken step := by
  induction steps with
  | nil => simp [StepsUnbroken]
  | cons step rest ih => simp [StepsUnbroken, ih]

mutual

theorem stepUnbroken_of_legible : (step : Step) → Outline.StepLegible step → StepUnbroken step
  | .line _, legible => legible.1.unbroken
  | .blank, _ => trivial
  | .indented body, legible => stepsUnbroken_of_legible body legible
  | .block _ _ body, ⟨opening, _, closed, inside⟩ =>
    ⟨opening.unbroken, by simp [closed], stepsUnbroken_of_legible body inside⟩

theorem stepsUnbroken_of_legible :
    (steps : List Step) → Outline.StepsLegible steps → StepsUnbroken steps
  | [], _ => trivial
  | step :: rest, ⟨first, others⟩ =>
    ⟨stepUnbroken_of_legible step first, stepsUnbroken_of_legible rest others⟩

end

mutual

theorem unbroken_of_mem_stepLines {depth : Nat} {line : Line} :
    (step : Step) → StepUnbroken step → line ∈ stepLines depth step → '\n' ∉ line.text.toList
  | .line text, unbroken, member => by
    obtain rfl := List.mem_singleton.mp member
    exact unbroken
  | .blank, _, member => by
    obtain rfl := List.mem_singleton.mp member
    simp
  | .indented body, unbroken, member => unbroken_of_mem_lines body unbroken member
  | .block opening closing body, ⟨opened, closed, inside⟩, member => by
    obtain rfl | inBody | rfl : line = ⟨depth, opening⟩ ∨ line ∈ lines (depth + 1) body ∨
        line = ⟨depth, closing⟩ := by simpa [stepLines] using member
    · exact opened
    · exact unbroken_of_mem_lines body inside inBody
    · exact closed

theorem unbroken_of_mem_lines {depth : Nat} {line : Line} :
    (steps : List Step) → StepsUnbroken steps → line ∈ lines depth steps → '\n' ∉ line.text.toList
  | [], _, member => by cases member
  | step :: rest, ⟨first, others⟩, member => by
    obtain here | later := List.mem_append.mp member
    · exact unbroken_of_mem_stepLines step first here
    · exact unbroken_of_mem_lines rest others later

end

def Line.deeper (line : Line) : Line :=
  ⟨line.depth + 1, line.text⟩

mutual

theorem stepLines_succ (depth : Nat) :
    (step : Step) → stepLines (depth + 1) step = (stepLines depth step).map Line.deeper
  | .line _ => rfl
  | .blank => rfl
  | .indented body => lines_succ (depth + 1) body
  | .block opening closing body => by
    rw [stepLines, stepLines, lines_succ (depth + 1) body]
    simp [Line.deeper]

/-- At a greater depth steps have the same lines, each of them deeper. -/
theorem lines_succ (depth : Nat) :
    (steps : List Step) → lines (depth + 1) steps = (lines depth steps).map Line.deeper
  | [] => rfl
  | step :: rest => by
    rw [lines, lines, stepLines_succ depth step, lines_succ depth rest, List.map_append]

end

/-- A line as it stands on the page, without the break that ends it. -/
def Line.shown (unit : String) (line : Line) : String :=
  if line.text.isEmpty then "" else String.join (List.replicate line.depth unit) ++ line.text

theorem renderLines_cons (unit : String) (line : Line) (rest : List Line) :
    renderLines unit (line :: rest) = line.shown unit ++ "\n" ++ renderLines unit rest := by
  by_cases bare : line.text.isEmpty = true <;> simp_all [renderLines, Line.render, Line.shown]

theorem Line.unbroken_shown {unit : String} (margin : '\n' ∉ unit.toList) {line : Line}
    (unbroken : '\n' ∉ line.text.toList) : '\n' ∉ (line.shown unit).toList := by
  unfold Line.shown
  split
  · simp
  · rw [String.toList_append, List.mem_append, not_or]
    exact ⟨fun member => margin (Outline.Margin.mem_of_mem_join member), unbroken⟩

theorem Line.shown_deeper (unit : String) (line : Line) :
    line.deeper.shown unit = Text.indentLine unit (line.shown unit) := by
  by_cases bare : line.text.isEmpty = true
  · simp [deeper, shown, Text.indentLine, bare]
  · simp_all [deeper, shown, Text.indentLine, List.replicate_succ, String.append_assoc]

/-- Lines on the page one level deeper. -/
theorem indent_renderLines {unit : String} (margin : '\n' ∉ unit.toList) {lines : List Line}
    (unbroken : ∀ line ∈ lines, '\n' ∉ line.text.toList) :
    Text.indent unit (renderLines unit lines) = renderLines unit (lines.map Line.deeper) := by
  induction lines with
  | nil => exact Text.indent_empty unit
  | cons line rest ih =>
    obtain ⟨first, others⟩ := List.forall_mem_cons.mp unbroken
    rw [renderLines_cons, Text.indent_line (line.unbroken_shown margin first), ih others,
      List.map_cons, renderLines_cons, Line.shown_deeper]

theorem renderAt_succ {unit : String} (margin : '\n' ∉ unit.toList) {steps : List Step}
    (unbroken : StepsUnbroken steps) (depth : Nat) :
    renderAt unit (depth + 1) steps = Text.indent unit (renderAt unit depth steps) := by
  rw [renderAt, renderAt, lines_succ,
    indent_renderLines margin fun line => unbroken_of_mem_lines steps unbroken]

mutual

theorem traceStep_append (unit : String) (depth : Nat) (front before : String) :
    (step : Step) → traceStep unit depth (front ++ before) step =
      (traceStep unit depth before step).map (front ++ ·)
  | .line _ => by simp [traceStep, String.append_assoc]
  | .blank => by simp [traceStep, String.append_assoc]
  | .indented body => by
    rw [traceStep, traceStep, trace_append unit (depth + 1) front before body]
    simp [String.append_assoc]
  | .block opening closing body => by
    rw [traceStep, traceStep, String.append_assoc,
      trace_append unit (depth + 1) front _ body]
    simp [String.append_assoc]

/-- At the end of every step the text begins with what was there before, and what follows does not
depend on it. -/
theorem trace_append (unit : String) (depth : Nat) (front before : String) :
    (steps : List Step) → trace unit depth (front ++ before) steps =
      (trace unit depth before steps).map (front ++ ·)
  | [] => rfl
  | step :: rest => by
    rw [trace, trace, traceStep_append unit depth front before step, String.append_assoc,
      trace_append unit depth front _ rest, List.map_append]

end

end Layout

namespace Emitter

theorem add_add (emitter : Emitter) (first second : String) :
    (emitter.add first).add second = emitter.add (first ++ second) := by
  simp [add, String.append_assoc]

/-- What is added between going in and coming out again is added where the emitter is. -/
theorem leave_add_enter (emitter : Emitter) (text : String) :
    (emitter.enter.add text).leave = emitter.add text := by
  simp [enter, add, leave]

theorem line_eq (emitter : Emitter) (text : String) :
    emitter.line text =
      emitter.add (Layout.renderLines emitter.unit [⟨emitter.depth, text⟩]) := by
  unfold line
  split <;>
    simp_all [Layout.renderLines, Layout.Line.render, add_add, String.append_assoc]

mutual

theorem perform_eq (emitter : Emitter) :
    (step : Step) → emitter.perform step =
      emitter.add (Layout.renderLines emitter.unit (Layout.stepLines emitter.depth step))
  | .line text => emitter.line_eq text
  | .blank => by simp [perform, Layout.stepLines, Layout.renderLines, Layout.Line.render]
  | .indented body => by
    rw [perform, run_eq emitter.enter body, leave_add_enter]
    rfl
  | .block opening closing body => by
    rw [perform, line_eq emitter opening, run_eq _ body, leave_add_enter, line_eq, add_add, add_add,
      Layout.renderLines_block]
    rfl

/-- A run leaves everything as it was but adds to the text what the steps have at this depth. -/
theorem run_eq (emitter : Emitter) :
    (steps : List Step) → emitter.run steps =
      emitter.add (Layout.renderAt emitter.unit emitter.depth steps)
  | [] => by simp [run, add, Layout.renderAt, Layout.lines, Layout.renderLines]
  | step :: rest => by
    rw [run, perform_eq emitter step, run_eq _ rest, add_add, Layout.renderAt_cons]
    rfl

end

theorem run_append (emitter : Emitter) (first rest : List Step) :
    emitter.run (first ++ rest) = (emitter.run first).run rest := by
  induction first generalizing emitter with
  | nil => rfl
  | cons step first ih => exact ih (emitter.perform step)

theorem text_run_start (unit : String) (steps : List Step) :
    ((start unit).run steps).text = Layout.render unit steps := by
  rw [run_eq]
  exact String.empty_append

end Emitter

end NodeGen
