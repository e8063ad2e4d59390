import NodeGen.Command.Dump
import NodeGen.Document.Load
import NodeGen.FileTree.Units
import NodeGen.Schema.Json
import NodeGen.Source.Lox
import NodeGen.Source.Resolve

/-! Running a command on a tree of files, with an evaluator for its queries. Everything that can be
refused is refused before the first change of the tree. -/

set_option autoImplicit false

namespace NodeGen

inductive RunError where
  | load (cause : LoadError)
  | schema (cause : SchemaError)
  | generation (target : String) (cause : SchemaError)
  | createDirectory (path : String) (cause : FileError)
  | writeFile (path : String) (cause : FileError)
  | writeUnits (cause : WriteError)
  deriving DecidableEq, Repr

/-- Causes follow what they prevented; units name their cause twice. -/
def RunError.message : RunError → String
  | .load cause => cause.message
  | .schema cause => "invalid schema: " ++ cause.message
  | .generation target cause => target ++ " generation aborted: " ++ cause.message
  | .createDirectory path cause => "failed to create " ++ path ++ ": " ++ cause.message
  | .writeFile path cause => "failed to write " ++ path ++ ": " ++ cause.message
  | .writeUnits cause => cause.message ++ ": " ++ cause.cause.message

/-- What a run leaves: the tree, what it wrote to the two outputs, and why it failed if it did. -/
structure RunResult where
  tree : FileTree
  output : String
  notes : String
  failure : Option RunError

namespace RunResult

def failed (tree : FileTree) (error : RunError) : RunResult :=
  ⟨tree, "", "", some error⟩

def printed (tree : FileTree) (output : String) : RunResult :=
  ⟨tree, output, "", none⟩

def noted (tree : FileTree) (notes : String) : RunResult :=
  ⟨tree, "", notes, none⟩

end RunResult

namespace InputSettings

def selection (settings : InputSettings) : Selection :=
  ⟨settings.pointer, settings.query⟩

/-- A built-in document is taken as it is; pointer and query do not apply to it. -/
def load (settings : InputSettings) (evaluator : Query.Evaluator) (tree : FileTree) :
    Except LoadError Document :=
  match settings.builtin with
  | some .lox => .ok Source.Lox.document
  | none => do
    let paths ← Document.resolvePatterns tree settings.inputs
    Document.loadAll evaluator tree settings.selection .empty paths

/-- The document of a run and its schema. -/
def loadSchema (settings : InputSettings) (evaluator : Query.Evaluator) (tree : FileTree) :
    Except RunError (Document × Schema) := do
  let document ← (settings.load evaluator tree).mapError .load
  let schema ← (Source.resolve document.types).mapError .schema
  return (document, schema)

end InputSettings

/-- Writes a text to a file, after the directories that lead to it. -/
def FileTree.writeBelow (tree : FileTree) (path text : String) : FileTree × Option RunError :=
  let (tree, refused) :=
    match FileTree.parent? path with
    | none => (tree, none)
    | some parent =>
      let (tree, cause) := tree.makeDirectories parent
      (tree, cause.map (.createDirectory parent))
  match refused with
  | some error => (tree, some error)
  | none =>
    let (tree, cause) := tree.settle (tree.write path text)
    (tree, cause.map (.writeFile path))

namespace SchemaSettings

def run (settings : SchemaSettings) (evaluator : Query.Evaluator) (tree : FileTree) : RunResult :=
  match settings.input.loadSchema evaluator tree with
  | .error error => .failed tree error
  | .ok (_, schema) =>
    let text := Json.pretty schema.toJson
    match settings.out with
    | none => .printed tree (text ++ "\n")
    | some path =>
      let (tree, failure) := tree.writeBelow path text
      ⟨tree, "", "", failure⟩

end SchemaSettings

namespace GenerateSettings

/-- The package given for the run comes before the one of the document, imports after its own. -/
def target (settings : GenerateSettings) (document : Document) : Target :=
  let imports := document.imports ++ settings.imports
  match settings.language with
  | .java => .java (settings.package <|> document.package) imports
  | .rust => .rust imports

def units (settings : GenerateSettings) (evaluator : Query.Evaluator) (tree : FileTree) :
    Except RunError (List CodeUnit) := do
  let (document, schema) ← settings.input.loadSchema evaluator tree
  let target := settings.target document
  (generate schema target).mapError (.generation target.name)

def writtenNotes (paths : List String) : String :=
  String.join (paths.map fun path => "wrote " ++ path ++ "\n")

def run (settings : GenerateSettings) (evaluator : Query.Evaluator) (tree : FileTree) : RunResult :=
  match settings.units evaluator tree with
  | .error error => .failed tree error
  | .ok units =>
    match settings.out with
    | none => .printed tree (CodeUnit.listing units)
    | some directory =>
      match tree.writeUnits directory units with
      | (tree, .error error) => .failed tree (.writeUnits error)
      | (tree, .ok paths) => .noted tree (writtenNotes paths)

end GenerateSettings

namespace Command

def isDryRun : Command → Bool
  | .generate settings => settings.dryRun
  | .schema settings => settings.dryRun

/-- A dry run only writes its settings out. -/
def run (command : Command) (evaluator : Query.Evaluator) (tree : FileTree) : RunResult :=
  if command.isDryRun then .noted tree (command.dump.text 0 ++ "\n")
  else
    match command with
    | .generate settings => settings.run evaluator tree
    | .schema settings => settings.run evaluator tree

end Command

end NodeGen
