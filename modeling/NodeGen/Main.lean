import NodeGen.Command.Arguments
import NodeGen.Command.Run
import NodeGen.Query.Common

/-! The program: it reads the arguments, takes up the files that a command can see, runs the command
on them, and carries the changes out. Its queries go to the common evaluator. -/

set_option autoImplicit false

namespace NodeGen.Program

/-- The places below a directory, files without their contents. -/
partial def outline (entries : Array IO.FS.DirEntry) (place : FileTree.Location)
    (tree : FileTree) : IO FileTree := do
  let mut tree := tree
  for entry in entries do
    let inner := place.child entry.fileName
    if ← entry.path.isDir then
      tree ← outline (← entry.path.readDir) inner (tree.put inner .directory)
    else
      tree := tree.put inner (.file .empty)
  return tree

/-- The tree with what stands at a path on disk and with the directories that lead there. -/
def survey (tree : FileTree) (path : String) : IO FileTree := do
  let mut tree := tree
  let mut place := FileTree.start path
  let mut directory := if FileTree.isAbsolute path then "/" else "."
  for name in FileTree.components path do
    let entry : IO.FS.DirEntry := ⟨directory, name⟩
    directory := FileTree.join directory name
    place :=
      if name = "." then place
      else if name = ".." then place.parent
      else place.child name
    if ← entry.path.isDir then
      tree := tree.put place .directory
    else if ← entry.path.pathExists then
      tree := tree.put place (.file (← IO.FS.readBinFile entry.path))
    else break
  return tree

def inputSettings : Command → InputSettings
  | .generate settings => settings.input
  | .schema settings => settings.input

/-- The paths that a command reads, as far as they are known. -/
def inputPaths (command : Command) (tree : FileTree) : List String :=
  match Document.resolvePatterns tree (inputSettings command).inputs with
  | .ok paths => paths
  | .error _ => []

/-- The paths that a command writes to if all goes well. -/
def outputPaths (command : Command) (tree : FileTree) : List String :=
  match command with
  | .schema settings => settings.out.toList
  | .generate settings =>
    match settings.out, settings.units Query.common tree with
    | some directory, .ok units => units.map fun unit => FileTree.join directory unit.fileName
    | _, _ => []

def pathOf (place : FileTree.Location) : String :=
  let start :=
    match place.anchor with
    | .above levels => String.join (List.replicate levels "../")
    | .root => "/"
  start ++ String.intercalate "/" place.names

/-- Makes what is new in a tree. -/
def carryOut (before after : FileTree) : IO PUnit := do
  for (place, entry) in after.entries do
    match entry, before.entryAt? place with
    | .directory, none => IO.FS.createDirAll (pathOf place)
    | .file contents, some (.file known) =>
      unless contents == known do IO.FS.writeBinFile (pathOf place) contents
    | .file contents, _ => IO.FS.writeBinFile (pathOf place) contents
    | .directory, some _ => pure ()

def usageText : String :=
  "usage: ast-gen <generate|schema> (--builtin lox | -i <INPUT>...) [OPTIONS]"

def runCommand (command : Command) : IO UInt32 := do
  let shape ← outline (← (← IO.currentDir).readDir) .top .empty
  let filled ← (inputPaths command shape).foldlM survey shape
  let before ← (outputPaths command filled).foldlM survey filled
  let result := command.run Query.common before
  carryOut before result.tree
  IO.print result.output
  IO.eprint result.notes
  match result.failure with
  | none => return 0
  | some error =>
    IO.eprintln ("error: " ++ error.message)
    return 1

end NodeGen.Program

def main (arguments : List String) : IO UInt32 := do
  match NodeGen.Arguments.read arguments with
  | .ok command => NodeGen.Program.runCommand command
  | .error .help =>
    IO.println NodeGen.Program.usageText
    return 0
  | .error .version =>
    IO.println "ast-gen 0.1.0"
    return 0
  | .error error =>
    IO.eprintln NodeGen.Program.usageText
    return error.exitCode.toUInt32
