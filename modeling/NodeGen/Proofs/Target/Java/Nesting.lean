import NodeGen.Proofs.Layout.Emission
import NodeGen.Proofs.Target.Declarations

/-! What is emitted on its own stands in a Java class one level deeper: the interface of the visitor
and the class of each variant are the same texts in the class of the base type, every line that is
not empty after a tab. -/

set_option autoImplicit false

namespace NodeGen

namespace Target.Java

/-- The class of a base type put together from what its parts are on their own. -/
def nestedText (base : BaseType) : String :=
  classHeader base ++ "\n" ++
    Text.indent "\t" (Layout.render "\t" (dispatchSteps base)) ++
    "\n\tabstract <R> R accept(Visitor<R> visitor);\n" ++
    String.join (base.variants.map fun variant =>
      "\n" ++ Text.indent "\t" (Layout.render "\t" (variantSteps base variant))) ++
    "\x7d\n"

theorem renderAt_bodySteps {base : BaseType} (unbroken : Layout.StepsUnbroken (bodySteps base)) :
    Layout.renderAt "\t" 1 (bodySteps base) =
      Text.indent "\t" (Layout.render "\t" (dispatchSteps base)) ++
        "\n\tabstract <R> R accept(Visitor<R> visitor);\n" ++
        String.join (base.variants.map fun variant =>
          "\n" ++ Text.indent "\t" (Layout.render "\t" (variantSteps base variant))) := by
  have each := Layout.stepsUnbroken_iff.mp unbroken
  have shifted (steps : List Step) (part : ∀ step ∈ steps, step ∈ bodySteps base) :
      Layout.renderAt "\t" 1 steps = Text.indent "\t" (Layout.render "\t" steps) :=
    Layout.renderAt_succ (by simp)
      (Layout.stepsUnbroken_iff.mpr fun step member => each step (part step member)) 0
  have dispatch := shifted (dispatchSteps base) (by simp +contextual [bodySteps])
  have between : Layout.renderAt "\t" 1
      [.blank, .line "abstract <R> R accept(Visitor<R> visitor);"] =
      "\n\tabstract <R> R accept(Visitor<R> visitor);\n" := by
    decide
  have nodes : (base.variants.map fun variant =>
      Layout.renderAt "\t" 1 (.blank :: variantSteps base variant)) =
      base.variants.map fun variant =>
        "\n" ++ Text.indent "\t" (Layout.render "\t" (variantSteps base variant)) := by
    refine List.map_congr_left fun variant member => ?_
    rw [Layout.renderAt_cons, shifted]
    · rfl
    · intro step inside
      refine List.mem_append_right _ (List.mem_flatMap.mpr ⟨variant, member, ?_⟩)
      exact List.mem_cons_of_mem _ inside
  rw [bodySteps, Layout.renderAt_append, Layout.renderAt_append, Layout.renderAt_flatMap, dispatch,
    between, nodes]

theorem renderLines_classStep {base : BaseType}
    (unbroken : Layout.StepsUnbroken (bodySteps base)) :
    Layout.renderLines "\t" (Layout.stepLines 0 (classStep base)) = nestedText base := by
  have header : Layout.renderLines "\t" [⟨0, classHeader base⟩] = classHeader base ++ "\n" := by
    simp [Layout.renderLines, Layout.Line.render, classHeader_eq]
  have closing : Layout.renderLines "\t" [⟨0, "\x7d"⟩] = "\x7d\n" := by
    decide
  rw [classStep, ← classHeader_eq, Layout.renderLines_block, header, closing, Nat.zero_add,
    renderAt_bodySteps unbroken, nestedText]
  simp only [String.append_assoc]

theorem unitText_eq_nestedText (package : Option String) (imports : List String) {base : BaseType}
    (unbroken : Layout.StepsUnbroken (bodySteps base)) :
    unitText package imports base =
      Layout.render "\t" (headSteps package imports base) ++ nestedText base := by
  have whole := Layout.renderAt_append "\t" 0 (headSteps package imports base) [classStep base]
  rw [Layout.renderAt_cons, renderLines_classStep unbroken] at whole
  simpa [unitText, unitSteps_eq, Layout.renderAt, Layout.render, Layout.lines, Layout.renderLines]
    using whole

end Target.Java

open Target

/-- Wherever an emitter stands, steps leave it at its depth and only add to its text: a text that
the steps, the depth and the unit determine, at the end of every step. Where no text breaks a line,
one level deeper this is the same text with the unit before every line that is not empty. So the
parts of a Java class stand in it as they are on their own, each line after a tab. -/
theorem emission_shifts (steps : List Step) :
    (∀ emitter : Emitter,
      emitter.run steps = { emitter with
        text := emitter.text ++ Layout.renderAt emitter.unit emitter.depth steps } ∧
      ∀ later, emitter.run (steps ++ later) = (emitter.run steps).run later) ∧
    (∀ unit depth before, Layout.trace unit depth before steps =
      (Layout.trace unit depth "" steps).map (before ++ ·)) ∧
    (∀ unit depth, '\n' ∉ unit.toList → Layout.StepsUnbroken steps →
      Layout.renderAt unit (depth + 1) steps =
        Text.indent unit (Layout.renderAt unit depth steps)) ∧
    (∀ unit, ((Emitter.start unit).run steps).text = Layout.render unit steps) ∧
    ∀ package imports base, Layout.StepsUnbroken (Java.bodySteps base) →
      Java.unitText package imports base =
        Layout.render "\t" (Java.headSteps package imports base) ++ Java.nestedText base := by
  refine ⟨fun emitter => ⟨emitter.run_eq steps, emitter.run_append steps⟩, ?_, ?_, ?_, ?_⟩
  · intro unit depth before
    have added := Layout.trace_append unit depth before "" steps
    rwa [String.append_empty] at added
  · intro unit depth margin unbroken
    exact Layout.renderAt_succ margin unbroken depth
  · intro unit
    exact Emitter.text_run_start unit steps
  · intro package imports base unbroken
    exact Java.unitText_eq_nestedText package imports unbroken

/-- A block in a block, with an empty line between two others. -/
def nestedBlocks : List Step :=
  [.block "a \x7b" "\x7d" [.line "b;", .blank, .block "c \x7b" "\x7d" [.line "d;"]]]

def binaryType : BaseType :=
  ⟨"Expr", [⟨"Binary", [⟨"left", .base "Expr"⟩, ⟨"operator", .scalar "Token"⟩]⟩]⟩

theorem emission_shifts_binaryType :
    Layout.renderAt "  " 1 nestedBlocks =
      Text.indent "  " "a \x7b\n  b;\n\n  c \x7b\n    d;\n  \x7d\n\x7d\n" ∧
    Java.unitText none ["lox.Token"] binaryType =
      Layout.render "\t" (Java.headSteps none ["lox.Token"] binaryType) ++
        Java.nestedText binaryType := by
  obtain ⟨-, -, shifts, -, nests⟩ := emission_shifts nestedBlocks
  constructor
  · refine shifts "  " 0 (by simp) ?_
    simp [nestedBlocks, Layout.StepsUnbroken, Layout.StepUnbroken]
  · have valid : Schema.Valid ⟨[binaryType]⟩ := Schema.validate_eq_ok_iff.{0}.mp rfl
    have scalars : Schema.ScalarsUnbroken ⟨[binaryType]⟩ := by
      simp [binaryType, Schema.ScalarsUnbroken, TypeRef.ScalarsUnbroken, Unbroken]
    have legible := Java.stepLegible_classStep (valid.readable scalars List.mem_cons_self)
    exact nests none ["lox.Token"] binaryType (Layout.stepsUnbroken_of_legible _ legible.2.2.2)

end NodeGen
