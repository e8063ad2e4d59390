import NodeGen.Layout
import NodeGen.Proofs.Text.Trim
import Mathlib.Data.List.Basic

/-! Laid-out text read back. A text is cut into lines, and every line is put into the blocks around
it by the braces that open and close them. The reader knows nothing of the steps that a text was
made of; for steps that keep braces to the ends of blocks it finds their nesting again. -/

set_option autoImplicit false

namespace NodeGen

namespace Text

def lineChars : List Char → List (List Char)
  | [] => []
  | char :: rest =>
    if char = '\n' then [] :: lineChars rest
    else
      match lineChars rest with
      | [] => [[char]]
      | line :: others => (char :: line) :: others

/-- The lines of a text, without the breaks that end them. -/
def lines (text : String) : List String :=
  (lineChars text.toList).map String.ofList

theorem lineChars_append {line : List Char} (unbroken : '\n' ∉ line) (rest : List Char) :
    lineChars (line ++ '\n' :: rest) = line :: lineChars rest := by
  induction line with
  | nil => simp [lineChars]
  | cons char line ih =>
    obtain ⟨differs, others⟩ := not_or.mp (mt List.mem_cons.mpr unbroken)
    simp [lineChars, ih others, Ne.symm differs]

theorem lines_append {line : String} (unbroken : '\n' ∉ line.toList) (rest : String) :
    lines (line ++ "\n" ++ rest) = line :: lines rest := by
  have cut := lineChars_append unbroken rest.toList
  simp [lines, cut]

theorem lineChars_ne_nil {text : List Char} (visible : text ≠ []) : lineChars text ≠ [] := by
  cases text with
  | nil => exact absurd rfl visible
  | cons char rest =>
    rw [lineChars]
    split
    · simp
    · cases lineChars rest <;> simp

/-- What stands before a line break is cut up as if nothing followed. -/
theorem lineChars_append_ended (first rest : List Char) :
    lineChars (first ++ '\n' :: rest) = lineChars (first ++ ['\n']) ++ lineChars rest := by
  induction first with
  | nil => simp [lineChars]
  | cons char first ih =>
    by_cases ends : char = '\n'
    · simp [lineChars, ends, ih]
    · simp only [List.cons_append, lineChars, ends, if_false, ih]
      -- With a break behind it the first part is never cut into nothing.
      cases cut : lineChars (first ++ ['\n']) with
      | nil => exact absurd cut (lineChars_ne_nil (by simp))
      | cons line others => rfl

theorem lines_append_ended (first rest : String) :
    lines (first ++ "\n" ++ rest) = lines (first ++ "\n") ++ lines rest := by
  have cut := lineChars_append_ended first.toList rest.toList
  simp [lines, cut]

end Text

theorem Layout.mem_lines {depth : Nat} {step : Step} {steps : List Step} (member : step ∈ steps)
    {line : Layout.Line} (inside : line ∈ Layout.stepLines depth step) :
    line ∈ Layout.lines depth steps := by
  obtain ⟨before, after, rfl⟩ := List.mem_iff_append.mp member
  rw [Layout.lines_append, Layout.lines]
  simp [inside]

namespace Outline

/-- A line and the opening lines of the blocks that it stands in, the innermost first. -/
structure Entry where
  scope : List String
  text : String
  deriving DecidableEq, Repr

/-- A line that is a closing brace belongs with the line that opened its block. -/
def readFrom (scope : List String) : List String → List Entry
  | [] => []
  | line :: rest =>
    let text := String.ofList (Text.trimStart line.toList)
    if text = "\x7d" then ⟨scope.tail, text⟩ :: readFrom scope.tail rest
    else if text.toList.getLast? = some '\x7b' then ⟨scope, text⟩ :: readFrom (text :: scope) rest
    else ⟨scope, text⟩ :: readFrom scope rest

def read (text : String) : List Entry :=
  readFrom [] (Text.lines text)

/-- The lines that stand directly in a block. -/
def within (scope : List String) (entries : List Entry) : List String :=
  (entries.filter (·.scope = scope)).map (·.text)

def isMarked (openings : List String) (text : String) : Bool :=
  openings.any fun opening => text.startsWith opening

/-- The lines that begin with one of the openings, wherever they stand. -/
def marked (openings : List String) (entries : List Entry) : List Entry :=
  entries.filter (isMarked openings ·.text)

def starting (opening : String) (entries : List Entry) : List Entry :=
  marked [opening] entries

/-- A line that shows where it starts and cannot be taken for the end of a block. -/
structure Legible (text : String) : Prop where
  unbroken : '\n' ∉ text.toList
  starts : text.toList.head?.any (fun char => !Text.isBlank char && char != '\x7d') = true

theorem legible_iff {text : String} :
    Legible text ↔ '\n' ∉ text.toList ∧
      text.toList.head?.any (fun char => !Text.isBlank char && char != '\x7d') = true :=
  ⟨fun legible => ⟨legible.unbroken, legible.starts⟩, fun ⟨unbroken, starts⟩ => ⟨unbroken, starts⟩⟩

mutual

def StepLegible : Step → Prop
  | .line text => Legible text ∧ text.toList.getLast? ≠ some '\x7b'
  | .blank => True
  | .indented body => StepsLegible body
  | .block opening closing body =>
    Legible opening ∧ opening.toList.getLast? = some '\x7b' ∧ closing = "\x7d" ∧
      StepsLegible body

def StepsLegible : List Step → Prop
  | [] => True
  | step :: rest => StepLegible step ∧ StepsLegible rest

end

theorem stepsLegible_iff {steps : List Step} :
    StepsLegible steps ↔ ∀ step ∈ steps, StepLegible step := by
  induction steps with
  | nil => simp [StepsLegible]
  | cons step rest ih => simp [StepsLegible, ih]

theorem stepsLegible_append {first rest : List Step} :
    StepsLegible (first ++ rest) ↔ StepsLegible first ∧ StepsLegible rest := by
  simp only [stepsLegible_iff, List.forall_mem_append]

mutual

@[simp] def ofStep (scope : List String) : Step → List Entry
  | .line text => [⟨scope, text⟩]
  | .blank => [⟨scope, ""⟩]
  | .indented body => ofSteps scope body
  | .block opening closing body =>
    ⟨scope, opening⟩ :: ofSteps (opening :: scope) body ++ [⟨scope, closing⟩]

/-- The outline that steps are meant to have. -/
@[simp] def ofSteps (scope : List String) : List Step → List Entry
  | [] => []
  | step :: rest => ofStep scope step ++ ofSteps scope rest

end

@[simp] theorem ofSteps_append (scope : List String) (first rest : List Step) :
    ofSteps scope (first ++ rest) = ofSteps scope first ++ ofSteps scope rest := by
  induction first with
  | nil => simp [ofSteps]
  | cons step first ih => simp [ofSteps, ih]

@[simp] theorem ofSteps_map_line {Item : Type} (scope : List String) (text : Item → String)
    (items : List Item) :
    ofSteps scope (items.map fun item => .line (text item)) =
      items.map fun item => ⟨scope, text item⟩ := by
  induction items with
  | nil => simp [ofSteps]
  | cons item rest ih => simp [ofSteps, ofStep, ih]

@[simp] theorem ofSteps_flatMap {Item : Type} (scope : List String) (steps : Item → List Step)
    (items : List Item) :
    ofSteps scope (items.flatMap steps) = items.flatMap fun item => ofSteps scope (steps item) := by
  induction items with
  | nil => simp [ofSteps]
  | cons item rest ih => simp [ofSteps_append, ih]

/-- What stands before a line for each level shows nothing and breaks no line. -/
structure Margin (unit : String) : Prop where
  blank : ∀ char ∈ unit.toList, Text.isBlank char = true
  unbroken : '\n' ∉ unit.toList

theorem Margin.mem_of_mem_join {unit : String} {depth : Nat} {char : Char}
    (member : char ∈ (String.join (List.replicate depth unit)).toList) : char ∈ unit.toList := by
  simp only [String.toList_join, List.mem_flatMap, List.mem_replicate] at member
  obtain ⟨_, ⟨-, rfl⟩, inside⟩ := member
  exact inside

/-- A line with a text is one line of the page, after its indentation. -/
theorem lines_renderLines_visible {unit : String} (indent : Margin unit) (depth : Nat)
    {text : String} (visible : text ≠ "") (whole : '\n' ∉ text.toList)
    (others : List Layout.Line) (rest : String) :
    Text.lines (Layout.renderLines unit (⟨depth, text⟩ :: others) ++ rest) =
      (String.join (List.replicate depth unit) ++ text) ::
        Text.lines (Layout.renderLines unit others ++ rest) := by
  have kept : '\n' ∉ (String.join (List.replicate depth unit) ++ text).toList := by
    rw [String.toList_append, List.mem_append, not_or]
    exact ⟨fun member => indent.unbroken (Margin.mem_of_mem_join member), whole⟩
  have cut := Text.lines_append kept (Layout.renderLines unit others ++ rest)
  simpa [Layout.renderLines, Layout.Line.render, visible, String.append_assoc] using cut

/-- A rendered line is one line of the page, and blanks are all that precedes its text. -/
theorem lines_renderLines_cons {unit : String} (indent : Margin unit) (depth : Nat)
    {text : String} (whole : '\n' ∉ text.toList)
    (others : List Layout.Line) (rest : String) :
    ∃ line : String, Text.trimStart line.toList = Text.trimStart text.toList ∧
      Text.lines (Layout.renderLines unit (⟨depth, text⟩ :: others) ++ rest) =
        line :: Text.lines (Layout.renderLines unit others ++ rest) := by
  by_cases bare : text = ""
  · refine ⟨"", by simp [bare], ?_⟩
    have cut := @Text.lines_append "" (by simp) (Layout.renderLines unit others ++ rest)
    simpa [Layout.renderLines, Layout.Line.render, bare, String.append_assoc] using cut
  · refine ⟨_, ?_, lines_renderLines_visible indent depth bare whole others rest⟩
    rw [String.toList_append]
    exact Text.trimStart_append (fun char member =>
      indent.blank char (Margin.mem_of_mem_join member)) _

/-- Rendered lines keep to themselves, even where a text among them breaks. -/
theorem lines_renderLines_append (unit : String) (first rest : List Layout.Line) :
    Text.lines (Layout.renderLines unit (first ++ rest)) =
      Text.lines (Layout.renderLines unit first) ++ Text.lines (Layout.renderLines unit rest) := by
  induction first with
  | nil => rfl
  | cons line first ih =>
    -- Whatever its text holds, a rendered line ends in a break, and a cut can be made there.
    obtain ⟨body, shape⟩ : ∃ body, line.render unit = body ++ "\n" := by
      unfold Layout.Line.render
      split
      · exact ⟨"", by simp⟩
      · exact ⟨_, rfl⟩
    have unfolds (others : List Layout.Line) :
        Layout.renderLines unit (line :: others) =
          body ++ "\n" ++ Layout.renderLines unit others := by
      simp [Layout.renderLines, shape]
    rw [List.cons_append, unfolds, unfolds, Text.lines_append_ended, Text.lines_append_ended, ih,
      List.append_assoc]

theorem lines_renderLines_singleton {unit : String} (indent : Margin unit) (depth : Nat)
    {text : String} (visible : text ≠ "") (whole : '\n' ∉ text.toList) :
    Text.lines (Layout.renderLines unit [⟨depth, text⟩]) =
      [String.join (List.replicate depth unit) ++ text] := by
  have cut := lines_renderLines_visible indent depth visible whole [] ""
  rwa [String.append_empty, String.append_empty] at cut

/-- Every line with a text can be found on the page. -/
theorem mem_lines_renderLines {unit : String} (indent : Margin unit) {line : Layout.Line}
    {lines : List Layout.Line} (member : line ∈ lines) (visible : line.text ≠ "")
    (whole : '\n' ∉ line.text.toList) :
    String.join (List.replicate line.depth unit) ++ line.text ∈
      Text.lines (Layout.renderLines unit lines) := by
  obtain ⟨before, after, rfl⟩ := List.mem_iff_append.mp member
  rw [lines_renderLines_append, ← List.singleton_append, lines_renderLines_append,
    lines_renderLines_singleton indent line.depth visible whole]
  simp

theorem readFrom_blank {unit : String} (indent : Margin unit) (scope : List String) (depth : Nat)
    (others : List Layout.Line) (rest : String) :
    readFrom scope (Text.lines (Layout.renderLines unit (⟨depth, ""⟩ :: others) ++ rest)) =
      ⟨scope, ""⟩ :: readFrom scope (Text.lines (Layout.renderLines unit others ++ rest)) := by
  obtain ⟨line, trimmed, cut⟩ :=
    @lines_renderLines_cons unit indent depth "" (by simp) others rest
  rw [cut, readFrom, trimmed]
  simp [Text.trimStart]

theorem readFrom_closing {unit : String} (indent : Margin unit) (opening : String)
    (scope : List String) (depth : Nat) (others : List Layout.Line) (rest : String) :
    readFrom (opening :: scope)
        (Text.lines (Layout.renderLines unit (⟨depth, "\x7d"⟩ :: others) ++ rest)) =
      ⟨scope, "\x7d"⟩ :: readFrom scope (Text.lines (Layout.renderLines unit others ++ rest)) := by
  obtain ⟨line, trimmed, cut⟩ :=
    @lines_renderLines_cons unit indent depth "\x7d" (by simp) others rest
  have kept : Text.trimStart "\x7d".toList = "\x7d".toList := by decide
  rw [cut, readFrom, trimmed, kept, String.ofList_toList]
  rfl

theorem readFrom_legible {unit : String} (indent : Margin unit) {text : String}
    (legible : Legible text) (scope : List String) (depth : Nat) (others : List Layout.Line)
    (rest : String) :
    readFrom scope (Text.lines (Layout.renderLines unit (⟨depth, text⟩ :: others) ++ rest)) =
      ⟨scope, text⟩ ::
        readFrom (if text.toList.getLast? = some '\x7b' then text :: scope else scope)
          (Text.lines (Layout.renderLines unit others ++ rest)) := by
  obtain ⟨line, trimmed, cut⟩ :=
    lines_renderLines_cons indent depth legible.unbroken others rest
  obtain ⟨char, tail, shape, visible, other⟩ : ∃ char tail, text.toList = char :: tail ∧
      Text.isBlank char = false ∧ char ≠ '\x7d' := by
    have starts := legible.starts
    cases shape : text.toList with
    | nil => simp [shape] at starts
    | cons char tail => exact ⟨char, tail, rfl, by simpa [shape] using starts⟩
  have kept : Text.trimStart text.toList = text.toList := by
    rw [shape, Text.trimStart_eq_self visible]
  -- The first character shows that the line does not close a block.
  have notClosing : text ≠ "\x7d" := by
    rintro rfl
    have same : ['\x7d'] = char :: tail := shape
    exact other (List.cons.inj same).1.symm
  rw [cut, readFrom, trimmed, kept, String.ofList_toList]
  simp only [notClosing, if_false]
  split <;> rfl

-- A text follows the steps and is left as it is: for the body of a block it begins with the closing
-- brace.
mutual

theorem readFrom_step {unit : String} (indent : Margin unit) (scope : List String) (depth : Nat)
    (rest : String) :
    (step : Step) → StepLegible step →
      readFrom scope (Text.lines (Layout.renderLines unit (Layout.stepLines depth step) ++ rest)) =
        ofStep scope step ++ readFrom scope (Text.lines rest)
  | .line text, legible => by
    have read := readFrom_legible indent legible.1 scope depth [] rest
    rw [if_neg legible.2] at read
    simpa [Layout.stepLines, ofStep, Layout.renderLines] using read
  | .blank, _ => by
    have read := readFrom_blank indent scope depth [] rest
    simpa [Layout.stepLines, ofStep, Layout.renderLines] using read
  | .indented body, legible => by
    rw [Layout.stepLines, ofStep]
    exact readFrom_steps indent scope (depth + 1) rest body legible
  | .block opening closing body, legible => by
    obtain ⟨opens, brace, rfl, inside⟩ := legible
    -- The opening line puts its block on the scope, and the closing brace takes it off again.
    rw [Layout.stepLines, ofStep, List.cons_append, List.cons_append,
      readFrom_legible indent opens, if_pos brace, Layout.renderLines_append,
      String.append_assoc, readFrom_steps indent (opening :: scope) (depth + 1) _ body inside]
    have closed := readFrom_closing indent opening scope depth [] rest
    rw [closed]
    simp [Layout.renderLines]

/-- The reader finds every line of legible steps in the blocks that the steps put it into. -/
theorem readFrom_steps {unit : String} (indent : Margin unit) (scope : List String) (depth : Nat)
    (rest : String) :
    (steps : List Step) → StepsLegible steps →
      readFrom scope (Text.lines (Layout.renderLines unit (Layout.lines depth steps) ++ rest)) =
        ofSteps scope steps ++ readFrom scope (Text.lines rest)
  | [], _ => by simp [Layout.lines, ofSteps, Layout.renderLines]
  | step :: steps, legible => by
    rw [Layout.lines, ofSteps, Layout.renderLines_append, String.append_assoc,
      readFrom_step indent scope depth _ step legible.1,
      readFrom_steps indent scope depth rest steps legible.2, List.append_assoc]

end

theorem read_renderLines {unit : String} (indent : Margin unit) {steps : List Step}
    (legible : StepsLegible steps) (depth : Nat) :
    read (Layout.renderLines unit (Layout.lines depth steps)) = ofSteps [] steps := by
  have whole := readFrom_steps indent [] depth "" steps legible
  simpa [read, Text.lines, Text.lineChars, readFrom] using whole

theorem read_render {unit : String} (indent : Margin unit) {steps : List Step}
    (legible : StepsLegible steps) :
    read (Layout.render unit steps) = ofSteps [] steps :=
  read_renderLines indent legible 0

@[simp] theorem isMarked_singleton (opening text : String) :
    isMarked [opening] text = text.startsWith opening := by
  simp [isMarked]

theorem isMarked_of_startsWith {openings : List String} {opening text : String}
    (known : isMarked openings opening = true) (begins : text.startsWith opening) :
    isMarked openings text = true := by
  obtain ⟨word, member, leads⟩ := List.any_eq_true.mp known
  refine List.any_eq_true.mpr ⟨word, member, ?_⟩
  rw [String.startsWith_string_iff] at leads begins ⊢
  exact leads.trans begins

/-- Nothing is lost when lines are looked for among the marked ones. -/
theorem starting_marked {openings : List String} {opening : String}
    (known : isMarked openings opening = true) (entries : List Entry) :
    starting opening (marked openings entries) = starting opening entries := by
  simp only [starting, marked, List.filter_filter, isMarked_singleton]
  refine List.filter_congr fun entry _ => ?_
  cases begins : entry.text.startsWith opening with
  | false => rfl
  | true => exact isMarked_of_startsWith known begins

@[simp] theorem marked_nil (openings : List String) : marked openings [] = [] :=
  rfl

@[simp] theorem marked_append (openings : List String) (first rest : List Entry) :
    marked openings (first ++ rest) = marked openings first ++ marked openings rest :=
  List.filter_append first rest

@[simp] theorem marked_cons (openings : List String) (entry : Entry) (rest : List Entry) :
    marked openings (entry :: rest) =
      (if isMarked openings entry.text then [entry] else []) ++ marked openings rest := by
  by_cases found : isMarked openings entry.text <;> simp [marked, found]

theorem starting_eq_nil_iff {opening : String} {entries : List Entry} :
    starting opening entries = [] ↔ ∀ entry ∈ entries, entry.text.startsWith opening = false := by
  simp [starting, marked]

theorem starting_append (opening : String) (first rest : List Entry) :
    starting opening (first ++ rest) = starting opening first ++ starting opening rest :=
  marked_append [opening] first rest

theorem marked_map_eq_nil {Item : Type} {openings : List String} {entry : Item → Entry}
    {items : List Item} (other : ∀ item ∈ items, isMarked openings (entry item).text = false) :
    marked openings (items.map entry) = [] := by
  rw [marked, List.filter_eq_nil_iff]
  intro found member
  obtain ⟨item, inside, rfl⟩ := List.mem_map.mp member
  simp [other item inside]

theorem marked_map_eq_self {Item : Type} {openings : List String} {entry : Item → Entry}
    {items : List Item} (all : ∀ item ∈ items, isMarked openings (entry item).text = true) :
    marked openings (items.map entry) = items.map entry := by
  rw [marked, List.filter_eq_self]
  intro found member
  obtain ⟨item, inside, rfl⟩ := List.mem_map.mp member
  exact all item inside

theorem marked_flatMap {Item : Type} {openings : List String} {entries found : Item → List Entry}
    {items : List Item} (each : ∀ item ∈ items, marked openings (entries item) = found item) :
    marked openings (items.flatMap entries) = items.flatMap found := by
  rw [marked, List.filter_flatMap]
  exact List.flatMap_congr each

@[simp] theorem within_nil (scope : List String) : within scope [] = [] :=
  rfl

@[simp] theorem within_append (scope : List String) (first rest : List Entry) :
    within scope (first ++ rest) = within scope first ++ within scope rest := by
  simp [within]

@[simp] theorem within_cons (scope : List String) (entry : Entry) (rest : List Entry) :
    within scope (entry :: rest) =
      (if entry.scope = scope then [entry.text] else []) ++ within scope rest := by
  by_cases same : entry.scope = scope <;> simp [within, same]

@[simp] theorem within_map {Item : Type} (scope : List String) (text : Item → String)
    (items : List Item) :
    within scope (items.map fun item => ⟨scope, text item⟩) = items.map text := by
  induction items with
  | nil => rfl
  | cons item rest ih => simp [ih]

theorem within_map_of_ne {Item : Type} {scope other : List String} (differ : scope ≠ other)
    (text : Item → String) (items : List Item) :
    within other (items.map fun item => ⟨scope, text item⟩) = [] := by
  simp [within, differ]

theorem within_flatMap_eq_nil {Item : Type} {scope : List String} {entries : Item → List Entry}
    {items : List Item} (absent : ∀ item ∈ items, within scope (entries item) = []) :
    within scope (items.flatMap entries) = [] := by
  simpa [within, List.filter_flatMap, List.flatMap_eq_nil_iff, List.map_flatMap] using absent

mutual

theorem suffix_of_mem_ofStep {scope : List String} {entry : Entry} :
    (step : Step) → entry ∈ ofStep scope step → scope <:+ entry.scope
  | .line text, member => by
    obtain rfl := List.mem_singleton.mp member
    exact List.suffix_rfl
  | .blank, member => by
    obtain rfl := List.mem_singleton.mp member
    exact List.suffix_rfl
  | .indented body, member => suffix_of_mem_ofSteps body member
  | .block opening closing body, member => by
    obtain rfl | inside | rfl : entry = ⟨scope, opening⟩ ∨ entry ∈ ofSteps (opening :: scope) body ∨
        entry = ⟨scope, closing⟩ := by simpa [ofStep] using member
    · exact List.suffix_rfl
    · exact (List.suffix_cons opening scope).trans (suffix_of_mem_ofSteps body inside)
    · exact List.suffix_rfl

theorem suffix_of_mem_ofSteps {scope : List String} {entry : Entry} :
    (steps : List Step) → entry ∈ ofSteps scope steps → scope <:+ entry.scope
  | [], member => by cases member
  | step :: steps, member => by
    obtain first | later := List.mem_append.mp member
    · exact suffix_of_mem_ofStep step first
    · exact suffix_of_mem_ofSteps steps later

end

/-- Steps in one block have no lines in a block that does not lie inside it. -/
theorem within_ofSteps_eq_nil {scope other : List String} (outside : ¬scope <:+ other)
    (steps : List Step) : within other (ofSteps scope steps) = [] := by
  rw [within, List.map_eq_nil_iff, List.filter_eq_nil_iff]
  intro entry member same
  have inside := suffix_of_mem_ofSteps steps member
  -- The scope of every line ends with the one that its steps were put into.
  rw [of_decide_eq_true same] at inside
  exact outside inside

end Outline

end NodeGen
