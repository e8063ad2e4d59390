import NodeGen.Command.Run
import NodeGen.Query.Common
import NodeGen.Proofs.FileTree.Writing
import NodeGen.Proofs.Schema.Printed

/-! What the command for schemas puts out. It is a JSON text of the resolved schema, on the output
or in a file, and reading it by its keys gives the schema again. -/

set_option autoImplicit false

namespace NodeGen

/-- A text that was written below new directories is read. -/
theorem FileTree.read_of_writeBelow {tree : FileTree} {path text : String}
    (fine : (tree.writeBelow path text).2 = none) :
    (tree.writeBelow path text).1.read path = .ok text := by
  rw [writeBelow] at fine ⊢
  simp only at fine ⊢
  split at fine
  · cases fine
  · simp only at fine ⊢
    cases written : FileTree.write _ path text with
    | error cause =>
      rw [written] at fine
      cases fine
    | ok after => exact read_of_write written

theorem Command.run_schema {settings : SchemaSettings} (wet : settings.dryRun = false)
    {evaluator : Query.Evaluator} {tree : FileTree} {document : Document} {schema : Schema}
    (loaded : settings.input.loadSchema evaluator tree = .ok (document, schema)) :
    (Command.schema settings).run evaluator tree =
      match settings.out with
      | none => .printed tree (Json.pretty schema.toJson ++ "\n")
      | some path =>
        ⟨(tree.writeBelow path (Json.pretty schema.toJson)).1, "", "",
          (tree.writeBelow path (Json.pretty schema.toJson)).2⟩ := by
  cases place : settings.out <;>
    simp [Command.run, isDryRun, wet, SchemaSettings.run, loaded, place]

open Json.Grammar in
/-- Of a schema the printed text is a JSON text of its JSON form, from which the schema can be read;
so no two schemas have one text. This text is what the command for schemas writes, to the output
or to a file. -/
theorem pretty_lossless (schema : Schema) :
    (∃ written : Written, written.WholeText (Json.pretty schema.toJson).toList ∧
      written.Matches schema.toJson) ∧
    Schema.ofText? (Json.pretty schema.toJson) = some schema ∧
    (∀ other : Schema, Json.pretty other.toJson = Json.pretty schema.toJson → other = schema) ∧
    ∀ (settings : SchemaSettings) (evaluator : Query.Evaluator) (tree : FileTree)
        (document : Document),
      settings.dryRun = false →
      settings.input.loadSchema evaluator tree = .ok (document, schema) →
      (settings.out = none →
        ((Command.schema settings).run evaluator tree).output = Json.pretty schema.toJson ++ "\n" ∧
        Schema.ofText? ((Command.schema settings).run evaluator tree).output = some schema) ∧
      ∀ path, settings.out = some path →
        ((Command.schema settings).run evaluator tree).failure = none →
        ((Command.schema settings).run evaluator tree).tree.read path =
          .ok (Json.pretty schema.toJson) := by
  have bare (schema : Schema) : Schema.ofText? (Json.pretty schema.toJson) = some schema := by
    have read := @Schema.ofText?_pretty schema "" (by simp [Space])
    rwa [String.append_empty] at read
  refine ⟨schema.wholeText_pretty, bare schema, ?_, ?_⟩
  · intro other same
    have read := bare other
    rw [same, bare schema] at read
    exact (Option.some.inj read).symm
  · intro settings evaluator tree document wet loaded
    rw [Command.run_schema wet loaded]
    refine ⟨fun nowhere => ?_, fun path place => ?_⟩
    · rw [nowhere]
      exact ⟨rfl, schema.ofText?_pretty (by simp [Space])⟩
    · rw [place]
      exact FileTree.read_of_writeBelow

/-- A scalar that needs escapes below two layers, and lists that are empty. -/
def escapesSchema : Schema :=
  ⟨[⟨"Expr", [⟨"Literal", [⟨"value", .optional (.list (.scalar "\"\\\n\x01é"))⟩]⟩, ⟨"Nil", []⟩]⟩,
    ⟨"Never", []⟩]⟩

/-- The same names, but the scalar is taken for a base type. -/
def basesSchema : Schema :=
  ⟨[⟨"Expr", [⟨"Literal", [⟨"value", .optional (.list (.base "\"\\\n\x01é"))⟩]⟩, ⟨"Nil", []⟩]⟩,
    ⟨"Never", []⟩]⟩

def loxInput : InputSettings :=
  ⟨some .lox, none, none, []⟩

theorem pretty_lossless_loxInput :
    Schema.ofText? (Json.pretty escapesSchema.toJson) = some escapesSchema ∧
    Json.pretty basesSchema.toJson ≠ Json.pretty escapesSchema.toJson ∧
    ∃ document schema, loxInput.loadSchema Query.common .empty = .ok (document, schema) ∧
      Schema.ofText? ((Command.schema ⟨loxInput, none, false⟩).run Query.common .empty).output =
        some schema ∧
      ((Command.schema ⟨loxInput, some "gen/lox.json", false⟩).run Query.common .empty).tree.read
        "gen/lox.json" = .ok (Json.pretty schema.toJson) := by
  obtain ⟨-, read, apart, -⟩ := pretty_lossless escapesSchema
  refine ⟨read, fun same => absurd (apart basesSchema same) (by decide), ?_⟩
  have stored : ((Command.schema ⟨loxInput, some "gen/lox.json", false⟩).run Query.common
      .empty).failure = none := by
    decide +kernel
  cases loaded : loxInput.loadSchema Query.common .empty with
  | error error => exact absurd stored (by simp [Command.run, Command.isDryRun,
      SchemaSettings.run, loaded, RunResult.failed])
  | ok found =>
    obtain ⟨document, schema⟩ := found
    obtain ⟨-, -, -, runs⟩ := pretty_lossless schema
    exact ⟨document, schema, rfl, ((runs _ Query.common .empty document rfl loaded).1 rfl).2,
      (runs _ Query.common .empty document rfl loaded).2 _ rfl stored⟩

end NodeGen
