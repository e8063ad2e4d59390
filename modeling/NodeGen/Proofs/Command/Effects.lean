import NodeGen.Command.Arguments
import NodeGen.Command.Run
import NodeGen.Query.Common
import NodeGen.Proofs.FileTree.Change

/-! What a run leaves behind. A command is refused before it has any effect, or else has nothing
left to do but its output. -/

set_option autoImplicit false

namespace NodeGen

open FileTree

/-- What failed is the output itself: a directory for it could not be made, or a file not
written. -/
def RunError.concernsOutput : RunError → Bool
  | .load _ | .schema _ | .generation _ _ => false
  | .createDirectory _ _ | .writeFile _ _ | .writeUnits _ => true

theorem FileTree.concernsOutput_of_writeBelow {tree : FileTree} {path text : String}
    {error : RunError} (failed : (tree.writeBelow path text).2 = some error) :
    error.concernsOutput = true := by
  rw [writeBelow] at failed
  simp only at failed
  split at failed
  · next refusal refused =>
    cases failed
    split at refused
    · cases refused
    · obtain ⟨cause, -, rfl⟩ := Option.map_eq_some_iff.mp refused
      rfl
  · obtain ⟨cause, -, rfl⟩ := Option.map_eq_some_iff.mp failed
    rfl

/-- How a run on a tree can end: refused, with nothing done to the tree, or with its output under
way, where nothing but the output can fail. -/
inductive RunResult.Ends (out : Option String) (tree : FileTree) : RunResult → Prop where
  | refused (error : RunError) : Ends out tree (.failed tree error)
  | shown {result : RunResult} (same : result.tree = tree) (fine : result.failure = none) :
      Ends out tree result
  | stored {result : RunResult} (path : String) (place : out = some path)
      (blame : ∀ error, result.failure = some error → error.concernsOutput = true) :
      Ends out tree result

theorem SchemaSettings.run_ends (settings : SchemaSettings) (evaluator : Query.Evaluator)
    (tree : FileTree) : (settings.run evaluator tree).Ends settings.out tree := by
  rw [run]
  split
  · exact .refused _
  · split
    · exact .shown rfl rfl
    · next path place => exact .stored path place fun _ => concernsOutput_of_writeBelow

theorem GenerateSettings.run_ends (settings : GenerateSettings) (evaluator : Query.Evaluator)
    (tree : FileTree) : (settings.run evaluator tree).Ends settings.out tree := by
  rw [run]
  split
  · exact .refused _
  · split
    · exact .shown rfl rfl
    · next directory place =>
      refine .stored directory place fun error failed => ?_
      split at failed <;> cases failed
      rfl

/-- The units are all that a run with an output directory writes. -/
theorem GenerateSettings.run_tree {settings : GenerateSettings} {directory : String}
    (place : settings.out = some directory) (evaluator : Query.Evaluator) (tree : FileTree) :
    (settings.run evaluator tree).tree = tree ∨
    ∃ units, settings.units evaluator tree = .ok units ∧
      (settings.run evaluator tree).tree = (tree.writeUnits directory units).1 := by
  rw [run]
  split
  · exact .inl rfl
  · next units generated =>
    refine .inr ⟨units, generated, ?_⟩
    simp only [place]
    split
    all_goals
      next written => rw [written]; rfl

namespace Command

def out : Command → Option String
  | .generate settings => settings.out
  | .schema settings => settings.out

theorem run_of_isDryRun {command : Command} (dry : command.isDryRun = true)
    (evaluator : Query.Evaluator) (tree : FileTree) :
    (command.run evaluator tree).tree = tree ∧ (command.run evaluator tree).failure = none := by
  simp [run.eq_def, dry, RunResult.noted]

theorem run_ends (command : Command) (evaluator : Query.Evaluator) (tree : FileTree) :
    (command.run evaluator tree).Ends command.out tree := by
  by_cases dry : command.isDryRun = true
  · obtain ⟨same, fine⟩ := run_of_isDryRun dry evaluator tree
    exact .shown same fine
  · cases command with
    | generate settings =>
      rw [run, if_neg dry]
      exact settings.run_ends evaluator tree
    | schema settings =>
      rw [run, if_neg dry]
      exact settings.run_ends evaluator tree

theorem unchanged_of_refused {command : Command} {evaluator : Query.Evaluator} {tree : FileTree}
    {error : RunError} (failed : (command.run evaluator tree).failure = some error)
    (early : error.concernsOutput = false) :
    (command.run evaluator tree).tree = tree ∧ (command.run evaluator tree).output = "" := by
  have ends := command.run_ends evaluator tree
  generalize command.run evaluator tree = result at *
  cases ends with
  | refused => exact ⟨rfl, rfl⟩
  | shown same fine =>
    rw [fine] at failed
    cases failed
  | stored path place blame =>
    rw [blame error failed] at early
    cases early

theorem unchanged_without_output {command : Command} (evaluator : Query.Evaluator) (tree : FileTree)
    (nowhere : command.out = none ∨ command.isDryRun = true) :
    (command.run evaluator tree).tree = tree := by
  obtain absent | dry := nowhere
  · have ends := command.run_ends evaluator tree
    generalize command.run evaluator tree = result at *
    cases ends with
    | refused => rfl
    | shown same fine => exact same
    | stored path place blame =>
      rw [absent] at place
      cases place
  · exact (run_of_isDryRun dry evaluator tree).1

theorem generate_frame {settings : GenerateSettings} {evaluator : Query.Evaluator} {tree : FileTree}
    {directory : String} {place : Location} (output : settings.out = some directory)
    (differs : ((Command.generate settings).run evaluator tree).tree.entryAt? place ≠
      tree.entryAt? place) :
    (Passes directory place ∧ tree.entryAt? place = none ∧
      ((Command.generate settings).run evaluator tree).tree.entryAt? place = some .directory) ∨
    ∃ units, settings.units evaluator tree = .ok units ∧
      ∃ unit ∈ units, place = locate (join directory unit.fileName) := by
  have wet : ¬ (Command.generate settings).isDryRun = true := by
    intro dry
    rw [(run_of_isDryRun dry evaluator tree).1] at differs
    exact differs rfl
  rw [run, if_neg wet] at differs ⊢
  obtain same | ⟨units, generated, after⟩ := GenerateSettings.run_tree output evaluator tree
  · rw [same] at differs
    exact absurd rfl differs
  · rw [after] at differs ⊢
    obtain made | target := writeUnits_frame differs
    · exact .inl made
    · exact .inr ⟨units, generated, target⟩

/-- A run that fails before its output leaves no trace; a run that is not asked for output in files
leaves the tree as it was; and a run that is asked for units makes no more than the directories on
the way to them and their files. -/
theorem run_effects (command : Command) (evaluator : Query.Evaluator) (tree : FileTree) :
    (∀ error, (command.run evaluator tree).failure = some error → error.concernsOutput = false →
      (command.run evaluator tree).tree = tree ∧ (command.run evaluator tree).output = "") ∧
    (command.out = none ∨ command.isDryRun = true → (command.run evaluator tree).tree = tree) ∧
    (∀ settings directory place, command = .generate settings → settings.out = some directory →
      (command.run evaluator tree).tree.entryAt? place ≠ tree.entryAt? place →
      (Passes directory place ∧ tree.entryAt? place = none ∧
        (command.run evaluator tree).tree.entryAt? place = some .directory) ∨
      ∃ units, settings.units evaluator tree = .ok units ∧
        ∃ unit ∈ units, place = locate (join directory unit.fileName)) := by
  refine ⟨fun _ => unchanged_of_refused, unchanged_without_output evaluator tree, ?_⟩
  rintro settings directory place rfl output differs
  exact generate_frame output differs

def absentCommand : Command :=
  .schema ⟨⟨none, none, none, ["absent.json"]⟩, some "gen", false⟩

def loxSettings : GenerateSettings :=
  ⟨⟨some .lox, none, none, []⟩, .java, some "gen/lox", none, [], false⟩

/-- A run without its input, a dry run, and one that makes the directory `gen`. -/
theorem run_effects_loxSettings :
    (Arguments.read ["schema", "-i", "absent.json", "-o", "gen"] = .ok absentCommand ∧
      (absentCommand.run Query.common .empty).tree = .empty ∧
      (absentCommand.run Query.common .empty).output = "") ∧
    ((Command.generate { loxSettings with dryRun := true }).run Query.common .empty).tree = .empty ∧
    (Arguments.read ["generate", "--builtin", "lox", "--out", "gen/lox"] =
        .ok (.generate loxSettings) ∧
      ((Passes "gen/lox" (.child .top "gen") ∧ FileTree.empty.entryAt? (.child .top "gen") = none ∧
        ((Command.generate loxSettings).run Query.common .empty).tree.entryAt? (.child .top "gen") =
          some .directory) ∨
      ∃ units, loxSettings.units Query.common .empty = .ok units ∧
        ∃ unit ∈ units, .child .top "gen" = locate (join "gen/lox" unit.fileName))) := by
  refine ⟨⟨by decide +kernel, ?_⟩, ?_, by decide +kernel, ?_⟩
  · have failed : (absentCommand.run Query.common .empty).failure =
        some (.load (.read "absent.json" .notFound)) := by
      decide +kernel
    exact (run_effects absentCommand Query.common .empty).1 _ failed rfl
  · exact (run_effects _ Query.common .empty).2.1 (.inr rfl)
  · have made : (((Command.generate loxSettings).run Query.common .empty).tree.entryAt?
        (.child .top "gen")).isSome = true := by
      decide +kernel
    refine (run_effects (.generate loxSettings) Query.common .empty).2.2 loxSettings "gen/lox" _
      rfl rfl ?_
    intro same
    rw [same] at made
    cases made

end Command

end NodeGen
